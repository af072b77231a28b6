import SelectiveDisclosure.Proofs.Presentation

namespace SelectiveDisclosure

structure Tells (d : Document) (cs : List (Statement × HashedStatement)) (names : List String)
    (v : VerifiedPresentation) : Prop where
  identifier : v.identifier = d.header.identifier
  issuer : v.issuer = d.header.terms.issuer
  holder : v.holder = d.header.terms.holder
  values : ∀ n value, v.values.get? n = some value ↔
    n ∈ names.map Text.normalize ∧ ∃ c ∈ cs, c.1.name = n ∧ c.1.value = value
  total : ∀ n ∈ names.map Text.normalize, (v.values.get? n).isSome

theorem tells_of_presented {d : Document} {p : Protocol} {names : List String} {signer : Signer}
    {challenge : String} {cs : List (Statement × HashedStatement)} {shown : Presentation}
    (h : Presented d p names signer challenge cs shown) : Tells d cs names shown.claimed := by
  have hterms : shown.header.terms = d.header.terms := congrArg Header.terms h.header
  have htotal : ∀ n ∈ names.map Text.normalize, (shown.claimed.values.get? n).isSome := by
    intro n hn
    obtain ⟨c, hc, hname⟩ := h.known n (mem_requestedNames.mpr hn)
    rw [(presented_values h).mpr ⟨hn, c, hc, hname, rfl⟩]
    rfl
  exact ⟨congrArg Header.identifier h.header, congrArg Terms.issuer hterms,
    congrArg Terms.holder hterms, fun n value => presented_values h, htotal⟩

theorem honest_presentation_verifies {a : Application} {p : Protocol} {issuer : Signer}
    {issued : Instant} {source : NonceSource} {d : Document}
    (hissue : a.issue p issuer issued source = .ok d) {names : List String} {holder : Signer}
    {challenge : String} {later : NonceSource} {shown : Presentation}
    (hpresent : d.present p names holder challenge later = .ok shown)
    (hdistinct : d.header.terms.contentHashes.Nodup) {calls : List Registry.Call} {delay : Nat}
    (hdelay : delay ≤ p.resolveTimeout.toNat) {issuerKey holderKey : ResolvedKey}
    (hissuer : (Registry.after calls).resolve issuer.keyUri = .ok issuerKey)
    (hassertion : .assertionMethod ∈ issuerKey.purposes)
    (hissued : issuer.SignsFor issuerKey.publicKey)
    (hholder : (Registry.after calls).resolve holder.keyUri = .ok holderKey)
    (hauthentication : .authentication ∈ holderKey.purposes)
    (hheld : holder.SignsFor holderKey.publicKey) {e : Expectations}
    (hchallenge : e.challenge = challenge)
    (hexpected : ∀ expected ∈ e.issuer, expected = d.header.terms.issuer) {now : Instant}
    (hcreated : d.header.terms.createdAt.notAfter now = true)
    (hlimit : ∀ limit ∈ d.header.terms.validUntil, now.before limit = true) :
    (∀ o ∈ (shown.verify p ⟨delay, (Registry.after calls).resolve⟩ e now).outcomes,
      o.result = .ok ()) ∧
    ∃ cs v, (∀ source, d.committedStatements p source = .ok cs) ∧
      (shown.verify p ⟨delay, (Registry.after calls).resolve⟩ e now).result = .ok v ∧
      Tells d cs names v := by
  obtain ⟨cs, hd⟩ := issued_of_issue hissue
  have h := presented_of_issued hd hpresent
  have hpasses := passes_of_presented hd h hdelay hdistinct hissuer hassertion hissued hholder
    hauthentication hheld hchallenge hexpected hcreated hlimit
  have hresult := Presentation.verify_result_ok_iff.mpr ⟨hpasses, rfl⟩
  obtain ⟨houtcomes, -⟩ := VerificationReport.result_ok_iff.mp hresult
  exact ⟨houtcomes, cs, _, hd.committed, hresult, tells_of_presented h⟩

theorem sample_presentation_verifies : ∃ d shown cs v,
    sampleApplication.issue .standard sampleIssuer default sampleSource = .ok d ∧
    d.present .standard ["r\u00e9sum\u00e9"] sampleHolder "challenge" sampleSource = .ok shown ∧
    (∀ source, d.committedStatements .standard source = .ok cs) ∧
    (shown.verify .standard sampleResolver sampleExpectations sampleTime).result = .ok v ∧
    Tells d cs ["r\u00e9sum\u00e9"] v := by
  obtain ⟨d, shown, hissue, hpresent, hdistinct, hcreated, hlimit, hissuer⟩ := sample_run
  have hexpected : ∀ expected ∈ sampleExpectations.issuer, expected = d.header.terms.issuer := by
    rintro expected ⟨⟩
    exact hissuer.symm
  obtain ⟨-, cs, v, hcs, hverify, htells⟩ := honest_presentation_verifies hissue hpresent hdistinct
    (Nat.zero_le _) sampleIssuer_resolves (by decide) (signsFor_signerOf _ _ _) sampleHolder_resolves
    (by decide) (signsFor_signerOf _ _ _) rfl hexpected hcreated hlimit
  exact ⟨d, shown, cs, v, hissue, hpresent, hcs, hverify, htells⟩

end SelectiveDisclosure
