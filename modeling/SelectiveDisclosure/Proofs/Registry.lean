import SelectiveDisclosure.Proofs.SortedMap
import SelectiveDisclosure.Proofs.Verification

namespace SelectiveDisclosure

namespace DidDocument

def Lists (d : DidDocument) (r : Relationship) (fragment : String) (key : PublicKey) : Prop :=
  ∃ e ∈ d.keys r, e.id = fragment ∧ e.publicKey = key

instance (d : DidDocument) (r : Relationship) (fragment : String) (key : PublicKey) :
    Decidable (d.Lists r fragment key) :=
  inferInstanceAs (Decidable (∃ e ∈ d.keys r, e.id = fragment ∧ e.publicKey = key))

def Names (d : DidDocument) (r : Relationship) (fragment : String) : Prop :=
  ∃ e ∈ d.keys r, e.id = fragment

instance (d : DidDocument) (r : Relationship) (fragment : String) : Decidable (d.Names r fragment) :=
  inferInstanceAs (Decidable (∃ e ∈ d.keys r, e.id = fragment))

def firstKey? (d : DidDocument) (fragment : String) : Option VerificationKey :=
  (d.authentication ++ (d.assertionMethod ++ d.capabilityDelegation)).find? (·.id = fragment)

def Agrees (d : DidDocument) (fragment : String) : Prop :=
  ∀ key ∈ d.firstKey? fragment, ∀ r, d.Names r fragment → d.Lists r fragment key.publicKey

def AssertsAuthenticationKey (d : DidDocument) (fragment : String) : Prop :=
  ∀ key ∈ d.authentication.find? (·.id = fragment), d.Lists .assertionMethod fragment key.publicKey

theorem findKey_eq (d : DidDocument) (fragment : String) :
    d.findKey fragment = (d.firstKey? fragment).map fun key =>
      (key, Relationship.all.filter fun r => d.Names r fragment) := by
  have hnames : ∀ r, decide (d.Names r fragment) =
      ((d.keys r).find? fun key => decide (key.id = fragment)).isSome := by
    intro r
    rw [Bool.eq_iff_iff, decide_eq_true_iff, List.find?_isSome, Names]
    simp only [decide_eq_true_iff]
  simp only [findKey, firstKey?, hnames, Relationship.all, listed, keys, List.filterMap_cons,
    List.filterMap_nil, List.filter_cons, List.filter_nil, List.find?_append]
  cases d.authentication.find? fun key => decide (key.id = fragment) <;>
    cases d.assertionMethod.find? fun key => decide (key.id = fragment) <;>
      cases d.capabilityDelegation.find? fun key => decide (key.id = fragment) <;> rfl

end DidDocument

namespace Registry

structure Keyed (r : Registry) : Prop where
  documents : ∀ e ∈ r.documents.entries, e.2.id = e.1

theorem keyed_empty : Keyed empty := ⟨List.forall_mem_nil _⟩

theorem keyed_call {r : Registry} (h : r.Keyed) (c : Call) : (r.call c).Keyed := by
  cases c with
  | register document =>
    rw [call, register]
    split
    · rename_i next hnext
      split at hnext
      · cases hnext
      · rw [← Except.ok.inj hnext]
        constructor
        intro e he
        rcases mem_insertEntry he with rfl | he
        · rfl
        · exact h.documents e he
    · exact h
  | deactivate did => exact ⟨fun e he => h.documents e (List.mem_of_mem_filter he)⟩

theorem keyed_foldl {r : Registry} (h : r.Keyed) (calls : List Call) :
    (calls.foldl call r).Keyed := by
  induction calls generalizing r with
  | nil => exact h
  | cons c calls ih => exact ih (keyed_call h c)

theorem keyed_after (calls : List Call) : (after calls).Keyed := keyed_foldl keyed_empty calls

theorem document_id {r : Registry} (h : r.Keyed) {did : Did} {d : DidDocument}
    (hd : r.document did = .ok d) : d.id = did := by
  rw [document] at hd
  split at hd
  · exact absurd hd nofun
  · rw [← Except.ok.inj hd]
    cases hget : r.documents.get? did with
    | none => rfl
    | some d => exact h.documents _ (SortedMap.get?_eq_some_iff.mp hget)

theorem resolve_ok_iff {r : Registry} {u : KeyUri} {k : ResolvedKey} :
    r.resolve u = .ok k ↔ ∃ d key, r.document u.did = .ok d ∧ d.firstKey? u.fragment = some key ∧
      k = ⟨u, d.id, key.publicKey, Relationship.all.filter fun r => d.Names r u.fragment⟩ := by
  rw [resolve]
  cases hd : r.document u.did with
  | error e => exact iff_of_false nofun fun ⟨_, _, h, _⟩ => nomatch h
  | ok d =>
    dsimp only
    rw [DidDocument.findKey_eq]
    cases hkey : d.firstKey? u.fragment with
    | none =>
      refine iff_of_false nofun ?_
      rintro ⟨d', key, h, hkey', -⟩
      rw [← Except.ok.inj h, hkey] at hkey'
      cases hkey'
    | some key =>
      constructor
      · intro h
        exact ⟨d, key, rfl, hkey, (Except.ok.inj h).symm⟩
      · rintro ⟨d', key', h, hkey', rfl⟩
        rw [← Except.ok.inj h] at hkey' ⊢
        rw [hkey] at hkey'
        rw [← Option.some.inj hkey']
        rfl

structure Vouched (calls : List Call) (u : KeyUri) (k : ResolvedKey) (d : DidDocument)
    (first : VerificationKey) : Prop where
  document : (after calls).document u.did = .ok d
  firstKey : d.firstKey? u.fragment = some first
  publicKey : k.publicKey = first.publicKey
  controller : k.controller = u.did
  purposes : ∀ r, r ∈ k.purposes ↔ d.Names r u.fragment

theorem vouched_of_resolve {calls : List Call} {u : KeyUri} {k : ResolvedKey}
    (h : (after calls).resolve u = .ok k) : ∃ d first, Vouched calls u k d first := by
  obtain ⟨d, first, hd, hfirst, rfl⟩ := resolve_ok_iff.mp h
  have hcontroller : d.id = u.did := document_id (keyed_after calls) hd
  refine ⟨d, first, hd, hfirst, rfl, hcontroller, ?_⟩
  intro r
  simp [Relationship.mem_all]

end Registry

theorem Resolver.resolveWithin_ok_iff {r : Resolver} {timeout : Nat} {u : KeyUri} {k : ResolvedKey} :
    r.resolveWithin timeout u = .ok k ↔ r.delay ≤ timeout ∧ r.resolve u = .ok k := by
  rw [resolveWithin]
  split
  · rename_i hlate
    exact iff_of_false nofun fun h => Nat.not_le.mpr hlate h.1
  · rename_i htimely
    exact (and_iff_right (Nat.not_lt.mp htimely)).symm

namespace DidDocument

theorem lists_of_first {d : DidDocument} {r : Relationship} {fragment : String}
    {first : VerificationKey} (h : ((d.keys r).find? (·.id = fragment)) = some first) :
    d.Lists r fragment first.publicKey :=
  ⟨first, List.mem_of_find?_eq_some h, by simpa using List.find?_some h, rfl⟩

theorem exists_first_of_names {d : DidDocument} {r : Relationship} {fragment : String}
    (h : d.Names r fragment) : ∃ first, ((d.keys r).find? (·.id = fragment)) = some first := by
  obtain ⟨e, he, hid⟩ := h
  exact Option.isSome_iff_exists.mp (List.find?_isSome.mpr ⟨e, he, by simpa using hid⟩)

end DidDocument

namespace Registry

section

variable {calls : List Call} {u : KeyUri} {k : ResolvedKey} {d : DidDocument}
  {first : VerificationKey} (h : Vouched calls u k d first)

include h

theorem lists_iff_agrees :
    (∀ r ∈ k.purposes, d.Lists r u.fragment k.publicKey) ↔ d.Agrees u.fragment := by
  rw [DidDocument.Agrees, h.firstKey, h.publicKey]
  simp [h.purposes]

theorem lists_authentication (hpurpose : .authentication ∈ k.purposes) :
    d.Lists .authentication u.fragment k.publicKey := by
  obtain ⟨other, hother⟩ := DidDocument.exists_first_of_names ((h.purposes _).mp hpurpose)
  have hlists := DidDocument.lists_of_first hother
  have hfirst := h.firstKey
  rw [DidDocument.keys] at hother
  rw [DidDocument.firstKey?, List.find?_append, hother, Option.some_or] at hfirst
  rwa [h.publicKey, ← Option.some.inj hfirst]

theorem lists_assertionMethod_iff (hpurpose : .assertionMethod ∈ k.purposes) :
    d.Lists .assertionMethod u.fragment k.publicKey ↔ d.AssertsAuthenticationKey u.fragment := by
  have hfirst := h.firstKey
  rw [DidDocument.firstKey?, List.find?_append] at hfirst
  rw [DidDocument.AssertsAuthenticationKey, h.publicKey]
  cases hauthentication : d.authentication.find? (·.id = u.fragment) with
  | none =>
    obtain ⟨other, hother⟩ := DidDocument.exists_first_of_names ((h.purposes _).mp hpurpose)
    have hlists := DidDocument.lists_of_first hother
    rw [DidDocument.keys] at hother
    rw [hauthentication, Option.none_or, List.find?_append, hother, Option.some_or] at hfirst
    rw [← Option.some.inj hfirst]
    exact iff_of_true hlists nofun
  | some other =>
    rw [hauthentication, Option.some_or] at hfirst
    rw [← Option.some.inj hfirst]
    constructor
    · rintro hlists _ ⟨⟩
      exact hlists
    · intro hall
      exact hall other rfl

end

end Registry

theorem issuer_key_authority {calls : List Registry.Call} {p : Presentation} {delay timeout : Nat}
    {e : Expectations}
    (h : p.proveIssuerSignature ⟨delay, (Registry.after calls).resolve⟩ timeout e = .ok ()) :
    ∃ d key, (Registry.after calls).document p.header.terms.issuer = .ok d ∧
      p.header.issuerSignature.verify p.header.documentHash.toList key = .ok () ∧
      (d.Lists .assertionMethod p.header.issuerSignature.keyUri.fragment key ↔
        d.AssertsAuthenticationKey p.header.issuerSignature.keyUri.fragment) := by
  obtain ⟨k, hk, hpurpose, hissuer, -, hverify⟩ := Presentation.proveIssuerSignature_ok_iff.mp h
  obtain ⟨d, first, hvouched⟩ := Registry.vouched_of_resolve (Resolver.resolveWithin_ok_iff.mp hk).2
  have hdocument := hvouched.document
  rw [← hvouched.controller, hissuer] at hdocument
  exact ⟨d, k.publicKey, hdocument, hverify, Registry.lists_assertionMethod_iff hvouched hpurpose⟩

theorem holder_key_authority {calls : List Registry.Call} {p : Presentation} {delay timeout : Nat}
    {e : Expectations}
    (h : p.proveHolderSignature ⟨delay, (Registry.after calls).resolve⟩ timeout e = .ok ()) :
    ∃ d key payload, (Registry.after calls).document p.header.terms.holder = .ok d ∧
      p.payload e.challenge = .ok payload ∧
      p.holderSignature.verify (utf8 payload) key = .ok () ∧
      d.Lists .authentication p.holderSignature.keyUri.fragment key := by
  obtain ⟨-, k, hk, hpurpose, hholder, payload, hpayload, hverify⟩ :=
    Presentation.proveHolderSignature_ok_iff.mp h
  obtain ⟨d, first, hvouched⟩ := Registry.vouched_of_resolve (Resolver.resolveWithin_ok_iff.mp hk).2
  have hdocument := hvouched.document
  rw [← hvouched.controller, hholder] at hdocument
  exact ⟨d, k.publicKey, payload, hdocument, hpayload, hverify,
    Registry.lists_authentication hvouched hpurpose⟩

theorem listed_authority_iff_agrees (calls : List Registry.Call) :
    (∀ u k, (Registry.after calls).resolve u = .ok k →
      ∃ d, (Registry.after calls).document u.did = .ok d ∧
        ((∀ r ∈ k.purposes, d.Lists r u.fragment k.publicKey) ↔ d.Agrees u.fragment)) ∧
    (∀ (p : Presentation) (delay timeout : Nat) (e : Expectations),
      p.proveIssuerSignature ⟨delay, (Registry.after calls).resolve⟩ timeout e = .ok () →
        ∃ d key, (Registry.after calls).document p.header.terms.issuer = .ok d ∧
          p.header.issuerSignature.verify p.header.documentHash.toList key = .ok () ∧
          (d.Lists .assertionMethod p.header.issuerSignature.keyUri.fragment key ↔
            d.AssertsAuthenticationKey p.header.issuerSignature.keyUri.fragment)) ∧
    ∀ (p : Presentation) (delay timeout : Nat) (e : Expectations),
      p.proveHolderSignature ⟨delay, (Registry.after calls).resolve⟩ timeout e = .ok () →
        ∃ d key payload, (Registry.after calls).document p.header.terms.holder = .ok d ∧
          p.payload e.challenge = .ok payload ∧
          p.holderSignature.verify (utf8 payload) key = .ok () ∧
          d.Lists .authentication p.holderSignature.keyUri.fragment key := by
  refine ⟨?_, fun _ _ _ _ => issuer_key_authority, fun _ _ _ _ => holder_key_authority⟩
  intro u k hk
  obtain ⟨d, first, hvouched⟩ := Registry.vouched_of_resolve hk
  have hiff := Registry.lists_iff_agrees hvouched
  exact ⟨d, hvouched.document, hiff⟩

def generatorKey : PublicKey :=
  ⟨[0x02, 0x79, 0xBE, 0x66, 0x7E, 0xF9, 0xDC, 0xBB, 0xAC, 0x55, 0xA0, 0x62, 0x95, 0xCE, 0x87, 0x0B,
    0x07, 0x02, 0x9B, 0xFC, 0xDB, 0x2D, 0xCE, 0x28, 0xD9, 0x59, 0xF2, 0x81, 0x5B, 0x16, 0xF8, 0x17,
    0x98], rfl⟩

def doubledKey : PublicKey :=
  ⟨[0x02, 0xC6, 0x04, 0x7F, 0x94, 0x41, 0xED, 0x7D, 0x6D, 0x30, 0x45, 0x40, 0x6E, 0x95, 0xC0, 0x7C,
    0xD8, 0x5C, 0x77, 0x8E, 0x4B, 0x8C, 0xEF, 0x3C, 0xA7, 0xAB, 0xAC, 0x09, 0xB9, 0x5C, 0x70, 0x9E,
    0xE5], rfl⟩

def twoKeyDocument (authentication assertionMethod : PublicKey) : DidDocument :=
  ⟨⟨generatorKey⟩, [⟨"key", authentication⟩], [⟨"key", assertionMethod⟩], []⟩

theorem shared_key_authority :
    ∃ d, (Registry.after [.register (twoKeyDocument generatorKey generatorKey)]).document
        ⟨generatorKey⟩ = .ok d ∧
      ∀ r ∈ [Relationship.authentication, .assertionMethod], d.Lists r "key" generatorKey := by
  obtain ⟨d, hd, hiff⟩ := (listed_authority_iff_agrees
    [.register (twoKeyDocument generatorKey generatorKey)]).1 ⟨⟨generatorKey⟩, "key"⟩
    ⟨⟨⟨generatorKey⟩, "key"⟩, ⟨generatorKey⟩, generatorKey, [.authentication, .assertionMethod]⟩ rfl
  refine ⟨d, hd, hiff.mpr ?_⟩
  rw [← Except.ok.inj hd]
  intro key hkey r hnames
  rw [← Option.some.inj hkey]
  cases r with
  | authentication => decide
  | assertionMethod => decide
  | capabilityDelegation => exact absurd hnames (by decide)

theorem reused_id_exceeds_listing :
    ¬∀ (calls : List Registry.Call) (u : KeyUri) (k : ResolvedKey),
      (Registry.after calls).resolve u = .ok k → ∀ r ∈ k.purposes,
        ∃ d, (Registry.after calls).document u.did = .ok d ∧ d.Lists r u.fragment k.publicKey := by
  intro h
  obtain ⟨d, hd, hlists⟩ := h [.register (twoKeyDocument generatorKey doubledKey)]
    ⟨⟨generatorKey⟩, "key"⟩
    ⟨⟨⟨generatorKey⟩, "key"⟩, ⟨generatorKey⟩, generatorKey, [.authentication, .assertionMethod]⟩ rfl
    .assertionMethod (by decide)
  rw [← Except.ok.inj hd] at hlists
  revert hlists
  decide

end SelectiveDisclosure
