import AiOffice.Application.AgentKnowledge.ManageKnowledgeAdmission

namespace AiOffice.Application.AgentKnowledge

open Data Outcome Domain Domain.IsoDate

variable {sha256 : Value → String} {knowledge : Option String} {tenantId projectId : String} {reads : AdmissionReads}
  {input : KnowledgeAdmissionInput} {first second : KnowledgeAdmissionProposal} {planned : KnowledgeAdmissionPlan}

structure Dated (proposal : KnowledgeAdmissionProposal) : Prop where
  createdAt : ∀ text, proposal.createdAt = some text → ∃ time, validTime time = true ∧ text = toISOString time
  confirmedAt : ∀ confirmationId fingerprint scanId text,
    proposal.provenance = .handover confirmationId fingerprint scanId text →
      ∃ time, validTime time = true ∧ text = toISOString time

structure Planned (sha256 : Value → String) (tenantId : String) (plan : KnowledgeAdmissionPlan) : Prop where
  dated : Dated plan.toKnowledgeAdmissionProposal
  hashes : plan = plan.toKnowledgeAdmissionProposal.plan sha256 tenantId

section Hashing

theorem textOrNull_injective : textOrNull.Injective := by
  intro left right same
  cases left <;> cases right <;> simp_all [textOrNull]

theorem KnowledgeAdmissionKind.text_injective : KnowledgeAdmissionKind.text.Injective := by
  intro left right same
  cases left <;> cases right <;> first | rfl | simp [KnowledgeAdmissionKind.text] at same

theorem KnowledgeEvidenceKind.text_injective : KnowledgeEvidenceKind.text.Injective := by
  intro left right same
  cases left <;> cases right <;> first | rfl | simp [KnowledgeEvidenceKind.text] at same

theorem sourceReference_injective : KnowledgeSourceReference.value.Injective := by
  intro left right same
  cases left
  cases right
  simpa [KnowledgeSourceReference.value] using same

theorem evidenceReference_injective : KnowledgeEvidenceReference.value.Injective := by
  intro left right same
  obtain ⟨⟨kind, id⟩, label⟩ := left
  obtain ⟨⟨other, otherId⟩, otherLabel⟩ := right
  simp only [KnowledgeEvidenceReference.value, Value.object.injEq, List.cons.injEq, Prod.mk.injEq, Value.string.injEq,
    true_and, and_true] at same
  obtain ⟨kinds, rfl, rfl⟩ := same
  rw [KnowledgeEvidenceKind.text_injective kinds]

theorem evidenceValue_injective : evidenceValue.Injective := by
  intro left right same
  exact List.map_injective_iff.mpr evidenceReference_injective (Value.array.inj same)

theorem hashed_injective (same : first.hashed tenantId = second.hashed tenantId) : first = second := by
  obtain ⟨project, repository, kind, title, text, source, createdAt, provenance⟩ := first
  obtain ⟨otherProject, otherRepository, otherKind, otherTitle, otherText, otherSource, otherCreatedAt, other⟩ := second
  cases provenance <;> cases other <;>
    simp only [KnowledgeAdmissionProposal.hashed, List.cons_append, List.nil_append, Value.object.injEq,
      List.cons.injEq, Prod.mk.injEq, Value.string.injEq, Value.number.injEq, true_and, and_true,
      textOrNull_injective.eq_iff, KnowledgeAdmissionKind.text_injective.eq_iff, sourceReference_injective.eq_iff,
      evidenceValue_injective.eq_iff, String.reduceEq, reduceCtorEq, false_and, and_false] at same
  · simp [same]
  · simp [same]
  · simp [same]

end Hashing

section Order

theorem mapM_reordered {Item Result : Type} {read : Item → Option Result} {items others : List Item}
    {results : List Result} (reordered : items.Perm others) (returned : items.mapM read = some results) :
    ∃ later, others.mapM read = some later ∧ results.Perm later := by
  induction reordered generalizing results with
  | nil => exact ⟨results, returned, .refl _⟩
  | cons item _ ih =>
    simp only [List.mapM_cons, Option.bind_eq_bind, Option.pure_def, Option.bind_eq_some_iff] at returned ⊢
    obtain ⟨result, found, rest, further, same⟩ := returned
    obtain ⟨later, there, perm⟩ := ih further
    cases same
    exact ⟨result :: later, ⟨result, found, later, there, rfl⟩, perm.cons _⟩
  | swap left right items =>
    simp only [List.mapM_cons, Option.bind_eq_bind, Option.pure_def, Option.bind_eq_some_iff] at returned ⊢
    obtain ⟨one, foundOne, middle, ⟨two, foundTwo, rest, further, tail⟩, same⟩ := returned
    cases tail
    cases same
    exact ⟨two :: one :: rest, ⟨two, foundTwo, one :: rest, ⟨one, foundOne, rest, further, rfl⟩, rfl⟩, .swap _ _ _⟩
  | trans _ _ ihFirst ihSecond =>
    obtain ⟨middle, there, perm⟩ := ihFirst returned
    obtain ⟨later, further, permToo⟩ := ihSecond there
    exact ⟨later, further, perm.trans permToo⟩

theorem mapM_reordered_none {Item Result : Type} {read : Item → Option Result} {items others : List Item}
    (reordered : items.Perm others) (refused : items.mapM read = none) : others.mapM read = none := by
  cases returned : others.mapM read with
  | none => rfl
  | some results =>
    obtain ⟨later, there, -⟩ := mapM_reordered reordered.symm returned
    simp [refused] at there

theorem resolve_reference {reference : KnowledgeReference} {resolved : KnowledgeEvidenceReference}
    (found : resolve reads projectId reference = some resolved) : resolved.toKnowledgeReference = reference := by
  obtain ⟨label, -, rfl⟩ := Option.map_eq_some_iff.mp found
  rfl

theorem mapM_resolve {references : List KnowledgeReference} {resolved : List KnowledgeEvidenceReference}
    (returned : references.mapM (resolve reads projectId) = some resolved) :
    resolved.map KnowledgeEvidenceReference.toKnowledgeReference = references := by
  induction references generalizing resolved with
  | nil => cases returned; rfl
  | cons reference references ih =>
    simp only [List.mapM_cons, Option.bind_eq_bind, Option.pure_def, Option.bind_eq_some_iff] at returned
    obtain ⟨result, found, rest, further, same⟩ := returned
    cases same
    rw [List.map_cons, ih further, resolve_reference found]

theorem evidence_reordered {references others : List KnowledgeReference} (distinct : references.Nodup)
    (reordered : references.Perm others) : evidence reads projectId references = evidence reads projectId others := by
  unfold evidence
  cases returned : references.mapM (resolve reads projectId) with
  | none => rw [mapM_reordered_none reordered returned]
  | some resolved =>
    obtain ⟨later, there, perm⟩ := mapM_reordered reordered returned
    have unique : (resolved.map KnowledgeEvidenceReference.toKnowledgeReference).Nodup := by
      rw [mapM_resolve returned]
      exact distinct
    have sorted : sortOn evidenceOrder resolved = sortOn evidenceOrder later := by
      refine sortOn_eq_of_keys (fun left here right there same => ?_) perm
      obtain ⟨kinds, ids⟩ := Prod.ext_iff.mp (toLex.injective same)
      have kind := KnowledgeEvidenceKind.text_injective (codeUnits_injective kinds)
      have id := codeUnits_injective ids
      exact List.inj_on_of_nodup_map unique here there (by
        cases leftReference : left.toKnowledgeReference
        cases rightReference : right.toKnowledgeReference
        simp_all)
    have labels : (resolved.any fun item => !isKnowledgeIdentifier item.label) =
        later.any fun item => !isKnowledgeIdentifier item.label := by
      rw [Bool.eq_iff_iff, List.any_eq_true, List.any_eq_true]
      simp only [perm.mem_iff]
    simp only [there, labels, sorted]

theorem validSource_reordered {confirmedBy : String} {cited others : List EvidenceInput} (reordered : cited.Perm others)
    {source : KnowledgeAdmissionSource}
    (valid : validSource { input with source := some (.operatorConfirmed confirmedBy cited) } = .ok source) :
    ∃ references later, source = .operatorConfirmed confirmedBy references ∧ references.Nodup ∧
      references.Perm later ∧
      validSource { input with source := some (.operatorConfirmed confirmedBy others) } =
        .ok (.operatorConfirmed confirmedBy later) := by
  unfold validSource at valid ⊢
  cases runId : input.runId with
  | some runId => simp [runId, failure] at valid
  | none =>
    simp only [runId] at valid ⊢
    obtain ⟨allowed, valid⟩ := guard_ok valid
    cases returned : cited.mapM evidenceReference with
    | none => simp [returned, failure] at valid
    | some references =>
      obtain ⟨later, there, perm⟩ := mapM_reordered reordered returned
      simp only [returned] at valid
      split at valid
      · next distinct =>
          cases valid
          refine ⟨references, later, rfl, distinct.of_map _, perm, ?_⟩
          rw [reordered.length_eq] at allowed
          rw [if_neg allowed, there]
          simp only
          rw [if_pos ((perm.map KnowledgeReference.key).nodup_iff.mp distinct)]
      · simp [failure] at valid

theorem validSource_refused {confirmedBy : String} {cited others : List EvidenceInput} (reordered : cited.Perm others)
    {thrown : AdmissionThrown}
    (refused : validSource { input with source := some (.operatorConfirmed confirmedBy cited) } = .error thrown) :
    validSource { input with source := some (.operatorConfirmed confirmedBy others) } = .error thrown := by
  cases outcome : validSource { input with source := some (.operatorConfirmed confirmedBy others) } with
  | ok source =>
    obtain ⟨-, later, -, -, -, valid⟩ := validSource_reordered reordered.symm outcome
    simp [refused] at valid
  | error other =>
    have only : ∀ list thrown, validSource { input with source := some (.operatorConfirmed confirmedBy list) } =
        .error thrown → thrown = .admission .invalidProvenance := by
      intro list thrown threw
      unfold validSource failure at threw
      grind
    rw [only cited thrown refused, only others other outcome]

theorem plan_reordered {confirmedBy : String} {cited others : List EvidenceInput} (reordered : cited.Perm others) :
    plan sha256 knowledge reads { input with source := some (.operatorConfirmed confirmedBy cited) } =
      plan sha256 knowledge reads { input with source := some (.operatorConfirmed confirmedBy others) } := by
  unfold plan
  cases knowledge with
  | none => rfl
  | some tenantId =>
    cases outcome : validSource { input with source := some (.operatorConfirmed confirmedBy cited) } with
    | error thrown => simp only [validSource_refused reordered outcome]
    | ok source =>
      obtain ⟨references, later, rfl, distinct, perm, valid⟩ := validSource_reordered reordered outcome
      have same : provenanceOf sha256 reads input.projectId (.operatorConfirmed confirmedBy references) =
          provenanceOf sha256 reads input.projectId (.operatorConfirmed confirmedBy later) := by
        simp only [provenanceOf, fromOperator, evidence_reordered distinct perm]
      simp only [valid]
      simp only [Bind.bind, Except.bind, same]

end Order

section Plans

theorem dateText_ok {time : Date} {text : String} (written : dateText time = .ok text) :
    validTime time = true ∧ text = toISOString time := by
  cases valid : validTime time with
  | true =>
    rw [dateText, if_pos valid, Except.ok.injEq] at written
    exact ⟨rfl, written.symm⟩
  | false => simp [dateText, valid] at written

theorem provenanceOf_dated {source : KnowledgeAdmissionSource} {reference : KnowledgeSourceReference}
    {createdAt : Option String} {provenance : KnowledgePlanProvenance}
    (verified : provenanceOf sha256 reads projectId source = .ok (reference, createdAt, provenance)) :
    (∀ text, createdAt = some text → ∃ time, validTime time = true ∧ text = toISOString time) ∧
    ∀ confirmationId fingerprint scanId text, provenance = .handover confirmationId fingerprint scanId text →
      ∃ time, validTime time = true ∧ text = toISOString time := by
  cases source with
  | agentRun runId =>
    simp only [provenanceOf, fromRun] at verified
    split at verified
    · simp [failure] at verified
    · split at verified
      · obtain ⟨-, verified⟩ := guard_ok verified
        obtain ⟨-, verified⟩ := guard_ok verified
        split at verified
        · simp [failure] at verified
        · obtain ⟨text, written, same⟩ := bind_ok verified
          cases same
          refine ⟨fun other same => ?_, nofun⟩
          cases same
          exact ⟨_, dateText_ok written⟩
      · simp [failure] at verified
  | handover confirmationId =>
    obtain ⟨⟨recorded, time⟩, -, verified⟩ := bind_ok verified
    obtain ⟨text, written, same⟩ := bind_ok verified
    cases same
    refine ⟨fun other same => ?_, fun _ _ _ other same => ?_⟩
    · cases same
      exact ⟨time, dateText_ok written⟩
    · cases same
      exact ⟨time, dateText_ok written⟩
  | operatorConfirmed confirmedBy references =>
    obtain ⟨resolved, -, same⟩ := bind_ok verified
    cases same
    exact ⟨nofun, nofun⟩

theorem plan_planned (returned : plan sha256 knowledge reads input = .ok planned) :
    ∃ tenantId, knowledge = some tenantId ∧ Planned sha256 tenantId planned := by
  unfold plan at returned
  cases knowledge with
  | none => simp [failure] at returned
  | some tenantId =>
    refine ⟨tenantId, rfl, ?_⟩
    obtain ⟨⟨⟩, -, returned⟩ := bind_ok returned
    obtain ⟨source, -, returned⟩ := bind_ok returned
    obtain ⟨-, returned⟩ := guard_ok returned
    obtain ⟨-, returned⟩ := guard_ok returned
    cases repository : reads.repositoryId with
    | none => simp [repository, failure] at returned
    | some repositoryId =>
      simp only [repository] at returned
      obtain ⟨-, returned⟩ := guard_ok returned
      obtain ⟨⟨⟩, -, returned⟩ := bind_ok returned
      obtain ⟨⟨reference, createdAt, provenance⟩, verified, same⟩ := bind_ok returned
      cases same
      obtain ⟨created, confirmed⟩ := provenanceOf_dated verified
      exact ⟨⟨created, confirmed⟩, rfl⟩

theorem approved_planned {admission : KnowledgeAdmission}
    (returned : approved sha256 knowledge reads admission = .ok planned) :
    ∃ tenantId, knowledge = some tenantId ∧ Planned sha256 tenantId planned := by
  obtain ⟨proposed, plans, returned⟩ := bind_ok returned
  obtain ⟨⟨⟩, -, returned⟩ := bind_ok returned
  obtain ⟨-, returned⟩ := guard_ok returned
  have same : proposed = planned := by
    split at returned
    · exact Except.ok.inj (guard_ok returned).2
    · exact Except.ok.inj returned
  exact same ▸ plan_planned plans

end Plans

end AiOffice.Application.AgentKnowledge
