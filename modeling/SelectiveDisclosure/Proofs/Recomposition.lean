import Mathlib.Data.List.Perm.Basic
import SelectiveDisclosure.Proofs.Binding
import SelectiveDisclosure.Proofs.Content.Decomposition
import SelectiveDisclosure.Proofs.Tampering

namespace SelectiveDisclosure

namespace Content

def entryForm (e : String × Content) : String × Tree := (e.1, e.2.normalForm)

theorem names_of_entryForms {es fs : List (String × Content)}
    (h : (es.map entryForm).Perm (fs.map entryForm)) : (es.map Prod.fst).Perm (fs.map Prod.fst) := by
  have hnames := h.map Prod.fst
  rwa [List.map_map, List.map_map] at hnames

section

variable {c d : Content} (hc : Normalizes c) (hd : Normalizes d) (h : Equivalent c d)

include hc hd h

theorem members_perm_of_equivalent :
    (c.members.map entryForm).Perm (d.members.map entryForm) := by
  have hcd := members_perm hc
  rw [show c.normalForm = d.normalForm from h] at hcd
  exact hcd.trans (members_perm hd).symm

theorem isLeaf_iff_of_equivalent : c.IsLeaf ↔ d.IsLeaf := by
  have hlength := (members_perm_of_equivalent hc hd h).length_eq
  rw [List.length_map, List.length_map] at hlength
  rw [IsLeaf, IsLeaf, ← List.length_eq_zero_iff, hlength, List.length_eq_zero_iff]

end

theorem leaves_perm_of_equivalent {c d : Content} (hc : Normalizes c) (hd : Normalizes d)
    (h : Equivalent c d) (path : String) (depth : Nat) :
    ((leaves path depth c).map (Option.map entryForm)).Perm
      ((leaves path depth d).map (Option.map entryForm)) := by
  induction c using membersInduction generalizing d path depth with
  | node c ih =>
    rw [leaves_eq path depth c, leaves_eq path depth d]
    by_cases hdepth : depth ≤ maxDepth
    · rw [if_pos hdepth, if_pos hdepth]
      have hleaf := isLeaf_iff_of_equivalent hc hd h
      by_cases hcleaf : c.IsLeaf
      · rw [if_pos (List.isEmpty_iff.mpr hcleaf), if_pos (List.isEmpty_iff.mpr (hleaf.mp hcleaf))]
        exact List.Perm.of_eq (congrArg (fun t => [some (path, t)]) h)
      · rw [if_neg (mt List.isEmpty_iff.mp hcleaf),
          if_neg (mt List.isEmpty_iff.mp (mt hleaf.mpr hcleaf)), List.map_flatMap, List.map_flatMap]
        refine flatMap_perm_of_perm_map (members_perm_of_equivalent hc hd h) ?_
        intro m hm n hn hmn
        obtain ⟨hname, hvalue⟩ := Prod.mk.inj hmn
        rw [hname]
        exact ih m hm (normalizes_of_mem_members hc hm) (normalizes_of_mem_members hd hn) hvalue _ _
    · rw [if_neg hdepth, if_neg hdepth]

theorem parts_perm_of_equivalent {es fs : List (String × Content)} (hes : Normalizes (object es))
    (hfs : Normalizes (object fs)) (h : Equivalent (object es) (object fs)) (p : Decomposition) :
    ((parts p es).map (Option.map entryForm)).Perm ((parts p fs).map (Option.map entryForm)) := by
  have hmembers := members_perm_of_equivalent hes hfs h
  cases p with
  | topLevel =>
    have hparts : ∀ gs, (parts .topLevel gs).map (Option.map entryForm) =
        ((object gs).members.map entryForm).map some := by
      intro gs
      rw [parts_topLevel_eq, List.map_map, List.map_map]
      rfl
    rw [hparts, hparts]
    exact hmembers.map some
  | leaf =>
    rw [parts_leaf_eq, parts_leaf_eq, List.map_flatMap, List.map_flatMap]
    refine flatMap_perm_of_perm_map hmembers ?_
    intro m hm n hn hmn
    obtain ⟨hname, hvalue⟩ := Prod.mk.inj hmn
    rw [hname]
    exact leaves_perm_of_equivalent (normalizes_of_mem_members hes hm)
      (normalizes_of_mem_members hfs hn) hvalue _ _

theorem collectParts_of_perm {ps qs : List (Option (String × Content))}
    (h : (ps.map (Option.map entryForm)).Perm (qs.map (Option.map entryForm)))
    {named : List (String × Content)} (hnamed : collectParts ps [] = .ok named) :
    ∃ others, collectParts qs [] = .ok others ∧ named.map entryForm = others.map entryForm := by
  obtain ⟨es, rfl, hes⟩ := collectParts_ok_iff.mp ⟨named, hnamed⟩
  have hnone : none ∉ qs := by
    intro hmem
    have hmem := h.mem_iff.mpr (List.mem_map_of_mem hmem)
    simp at hmem
  obtain ⟨fs, rfl⟩ := exists_map_some hnone
  have hforms : (es.map entryForm).Perm (fs.map entryForm) := by
    refine (List.map_perm_map_iff (fun _ _ => Option.some.inj)).mp ?_
    rwa [List.map_map, List.map_map] at h ⊢
  have hkeys : (fs.map Prod.fst).Nodup := (names_of_entryForms hforms).nodup_iff.mp hes
  obtain ⟨others, hothers⟩ := collectParts_ok_iff.mpr ⟨fs, rfl, hkeys⟩
  refine ⟨others, hothers, eq_of_perm_of_ascending ?_ ?_ ?_⟩
  · exact List.pairwise_map.mpr (ascending_of_collectParts List.Pairwise.nil hnamed)
  · exact List.pairwise_map.mpr (ascending_of_collectParts List.Pairwise.nil hothers)
  · exact ((collectParts_perm hnamed).symm.map entryForm).trans
      (hforms.trans ((collectParts_perm hothers).map entryForm))

theorem encoded_of_meaning {ss ts : List Statement}
    (hss : ∀ s ∈ ss, encodeStatement s.name s.value = .ok s.encoded)
    (hts : ∀ t ∈ ts, encodeStatement t.name t.value = .ok t.encoded)
    (h : ss.map Statement.meaning = ts.map Statement.meaning) :
    ss.map Statement.encoded = ts.map Statement.encoded := by
  induction ss generalizing ts with
  | nil => rw [List.map_eq_nil_iff.mp h.symm]
  | cons s ss ih =>
    cases ts with
    | nil => cases h
    | cons t ts =>
      obtain ⟨hs, hss⟩ := List.forall_mem_cons.mp hss
      obtain ⟨ht, hts⟩ := List.forall_mem_cons.mp hts
      obtain ⟨hhead, htail⟩ := List.cons.inj h
      obtain ⟨hname, hvalue⟩ := Prod.mk.inj hhead
      have htext := (encodeStatement_eq_iff hs ht).mpr ⟨congrArg Text.normalize hname, hvalue⟩
      rw [List.map_cons, List.map_cons, htext, ih hss hts htail]

theorem makeStatements_alike {named others : List (String × Content)}
    (h : named.map entryForm = others.map entryForm) (hnamed : ∀ e ∈ named, Fits e)
    (hothers : ∀ e ∈ others, Fits e) :
    Alike (fun ss ts => ss.map Statement.encoded = ts.map Statement.encoded)
      (makeStatements named) (makeStatements others) := by
  obtain ⟨ss, hss⟩ := makeStatements_ok_iff.mpr hnamed
  obtain ⟨ts, hts⟩ := makeStatements_ok_iff.mpr hothers
  obtain ⟨rfl, hsencoded⟩ := makeStatements_ok hss
  obtain ⟨rfl, htencoded⟩ := makeStatements_ok hts
  rw [hss, hts]
  rw [List.map_map, List.map_map] at h
  exact .ok (encoded_of_meaning hsencoded htencoded h)

theorem fits_of_collectParts {es named : List (String × Content)}
    (h : ∃ n, normalizeAt 0 (object es) = .ok n) {p : Decomposition}
    (hnamed : collectParts (parts p es) [] = .ok named) : ∀ e ∈ named, Fits e := by
  obtain ⟨given, hparts, hperm⟩ := collectParts_spec hnamed
  rw [List.append_nil] at hperm
  have hnone : none ∉ parts p es := by simp [hparts]
  intro e he
  have hmem : some e ∈ parts p es := hparts ▸ List.mem_map_of_mem (hperm.mem_iff.mpr he)
  cases p with
  | topLevel =>
    obtain ⟨f, hf, hfe⟩ := List.mem_map.mp hmem
    cases Option.some.inj hfe
    exact (normalizeAt_object_ok_iff.mp h).2.2 f hf
  | leaf =>
    obtain ⟨-, -, -, hleaf, -⟩ := (mem_parts_leaf_iff hnone).mp hmem
    exact normalizeAt_of_isLeaf hleaf (by decide)

theorem decompose_alike {c d : Content} (hc : ∃ x, c.encode = .ok x) (hd : ∃ y, d.encode = .ok y)
    (h : SameTree c d) (p : Decomposition) :
    Alike (fun ss ts => ss.map Statement.encoded = ts.map Statement.encoded)
      (c.decompose p) (d.decompose p) := by
  have hcn := encode_ok_iff.mp hc
  have hdn := encode_ok_iff.mp hd
  have hequivalent := (sameTree_iff_equivalent ⟨0, hcn⟩ ⟨0, hdn⟩).mp h
  cases h with
  | @object es fs _ =>
    have hparts := parts_perm_of_equivalent ⟨0, hcn⟩ ⟨0, hdn⟩ hequivalent p
    have hcollected : Alike (fun named others => named.map entryForm = others.map entryForm ∧
        (∀ e ∈ named, Fits e) ∧ ∀ e ∈ others, Fits e)
        (collectParts (parts p es) []) (collectParts (parts p fs) []) := by
      refine .of_transfer ?_ ?_
      · intro named hnamed
        obtain ⟨others, hothers, hforms⟩ := collectParts_of_perm hparts hnamed
        exact ⟨others, hothers, hforms, fits_of_collectParts hcn hnamed,
          fits_of_collectParts hdn hothers⟩
      · intro others hothers
        obtain ⟨named, hnamed, -⟩ := collectParts_of_perm hparts.symm hothers
        exact ⟨named, hnamed⟩
    refine hcollected.bind fun named others hforms => ?_
    obtain ⟨hforms, hnamed, hothers⟩ := hforms
    refine .throw_or ?_ (makeStatements_alike hforms hnamed hothers)
    have hlength := congrArg List.length hforms
    rw [List.length_map, List.length_map] at hlength
    rw [List.isEmpty_iff_length_eq_zero, hlength, List.isEmpty_iff_length_eq_zero]
  | array _ => exact .error _ _
  | string _ => exact .error _ _
  | number _ => exact .error _ _
  | bool => exact .error _ _

end Content

theorem repeatedStatement_isSome_eq {cs ds : List (Statement × HashedStatement)} (seen : List Hash)
    (h : (cs.map fun c => c.2.digest) = ds.map fun d => d.2.digest) :
    (repeatedStatement seen cs).isSome = (repeatedStatement seen ds).isSome := by
  induction cs generalizing ds seen with
  | nil => rw [List.map_eq_nil_iff.mp h.symm]
  | cons c cs ih =>
    cases ds with
    | nil => cases h
    | cons d ds =>
      have hhead : c.2.digest = d.2.digest := (List.cons.inj h).1
      rw [repeatedStatement, repeatedStatement, hhead]
      split
      · rfl
      · exact ih _ (List.cons.inj h).2

structure Application.Recomposed (a b : Application) : Prop where
  content : Content.SameTree a.content b.content
  holder : a.holder = b.holder
  evidenceIds : a.evidenceIds = b.evidenceIds
  authorization : a.authorization.map Text.normalize = b.authorization.map Text.normalize
  registry : a.registry.map Text.normalize = b.registry.map Text.normalize
  createdAt : a.createdAt = b.createdAt
  validUntil : a.validUntil = b.validUntil
  metadata : a.metadata = b.metadata

structure Document.SignedAlike (d e : Document) : Prop where
  contentHashes : d.header.terms.contentHashes = e.header.terms.contentHashes
  nonces : d.nonces = e.nonces
  documentHash : d.header.documentHash = e.header.documentHash
  identifier : d.header.identifier = e.header.identifier
  issuerSignature : d.header.issuerSignature = e.header.issuerSignature

theorem normalize_getD_eq {s t : Option String}
    (h : s.map Text.normalize = t.map Text.normalize) :
    Text.normalize (s.getD "") = Text.normalize (t.getD "") := by
  have hmap : ∀ u : Option String,
      Text.normalize (u.getD "") = (u.map Text.normalize).getD (Text.normalize "") := by
    intro u
    cases u <;> rfl
  rw [hmap, hmap, h]

theorem checkText_alike {s t : Option String} (h : s.map Text.normalize = t.map Text.normalize)
    (field : OptionalText) : Alike Eq (Application.checkText field s) (Application.checkText field t) := by
  have hempty : s = some "" ↔ t = some "" := by
    have hiff : ∀ u : Option String, u.map Text.normalize = some "" ↔ u = some "" := by
      intro u
      cases u <;> simp
    rw [← hiff, h, hiff]
  exact .throw_or hempty (.ok rfl)

theorem Application.Recomposed.terms_agree {a b : Application} (h : a.Recomposed b)
    (issuer holder : Did) (hashes : List Hash) (created : Instant) (limit : Option Instant) :
    (⟨hashes, issuer, holder, a.evidenceIds, a.authorization, a.registry, created, limit⟩ :
        Terms).Agrees
      ⟨hashes, issuer, holder, b.evidenceIds, b.authorization, b.registry, created, limit⟩ where
  contentHashes := .refl _
  issuer := rfl
  holder := rfl
  evidenceIds := h.evidenceIds
  authorization := normalize_getD_eq h.authorization
  registry := normalize_getD_eq h.registry
  createdAt := rfl
  validUntil := rfl

theorem issue_alike {a b : Application} (h : a.Recomposed b) (ha : ∃ x, a.content.encode = .ok x)
    (hb : ∃ y, b.content.encode = .ok y) (p : Protocol) (signer : Signer) (now : Instant)
    (source : NonceSource) :
    Alike Document.SignedAlike (a.issue p signer now source) (b.issue p signer now source) := by
  rw [Application.issue, Application.issue, h.holder, h.createdAt, h.validUntil]
  cases b.holder with
  | none => exact .error _ _
  | some holder =>
    refine .bind (.refl (r := Eq) (fun _ => rfl) _) fun _ _ _ => ?_
    refine .bind (checkText_alike h.authorization .authorization) fun _ _ _ => ?_
    refine .bind (checkText_alike h.registry .registry) fun _ _ _ => ?_
    refine .bind ((Content.decompose_alike ha hb h.content p.decomposition).mapError _ _) ?_
    intro ss ts htexts
    dsimp only
    rw [htexts]
    -- from here on the two differ in the names of statements, the texts of the terms and the content
    have hrepeated := repeatedStatement_isSome_eq [] ((map_hashed_zip
      ((map_statement_hashStatements p.hasher .empty source _).trans htexts.symm)
      HashedStatement.digest).trans (map_hashed_zip (map_statement_hashStatements ..)
      HashedStatement.digest).symm)
    split
    · rename_i s hs
      rw [hs] at hrepeated
      obtain ⟨t, ht⟩ := Option.isSome_iff_exists.mp hrepeated.symm
      rw [ht]
      exact .error _ _
    · rename_i hnone
      rw [Option.eq_none_iff_forall_ne_some.mpr hnone] at hrepeated
      rw [Option.not_isSome_iff_eq_none.mp (Bool.eq_false_iff.mp hrepeated.symm),
        Terms.documentHash_eq_of_agrees (h.terms_agree ..)]
      refine .bind (.refl (r := Eq) (fun _ => rfl) _) ?_
      rintro hash _ rfl
      refine .bind (.refl (r := Eq) (fun _ => rfl) _) ?_
      rintro signature _ rfl
      exact .ok ⟨rfl, rfl, rfl, rfl, rfl⟩

def recomposedNote : Application := noteApplication indexedContent

theorem indexedNote_recomposed : indexedNote.Recomposed recomposedNote where
  content := by
    have hlast : Content.SameEntries [] ([] ++ []) := .nil
    exact .object (.cons membership_run.2.1 (.array (.cons .bool .nil)) hlast)
  holder := rfl
  evidenceIds := rfl
  authorization := rfl
  registry := rfl
  createdAt := rfl
  validUntil := rfl
  metadata := rfl

theorem noted_encodes (name : String) :
    ∃ x, (Content.object [(name, .array [.bool true])]).encode = .ok x := by
  have hitems : ∃ n, Content.normalizeAt 1 (.array [.bool true]) = .ok n := ⟨_, rfl⟩
  refine Content.encode_ok_iff.mpr (Content.normalizeAt_object_ok_iff.mpr ⟨Nat.zero_le _, ?_, ?_⟩)
  · exact List.nodup_singleton _
  · exact List.forall_mem_singleton.mpr hitems

theorem recomposed_note_issued : ∃ d e,
    indexedNote.issue leafwise echoSigner default sampleSource = .ok d ∧
    recomposedNote.issue leafwise echoSigner default sampleSource = .ok e ∧ d.SignedAlike e := by
  obtain ⟨d, hissue, -⟩ := indexed_run
  have halike := issue_alike indexedNote_recomposed (noted_encodes _) (noted_encodes _) leafwise
    echoSigner default sampleSource
  obtain ⟨e, he, hsigned⟩ := halike.transfer hissue
  exact ⟨d, e, hissue, he, hsigned⟩

end SelectiveDisclosure
