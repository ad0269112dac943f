import Mathlib.Algebra.Group.Int.Defs
import Mathlib.Algebra.GroupWithZero.Nat
import Mathlib.Data.List.DropRight
import Mathlib.Data.List.TakeWhile

namespace AiOffice.Domain

inductive ErrorName
  | domainValidationError
  | pipelineTransitionError
  | invalidAgentDefinitionError
  | capabilityValidationError
  | invalidActionTransitionError
  | invalidActionTimestampError
  | actionRequestNotFoundError
  | capabilityProjectMismatchError
  | concurrentActionTransitionError
  | actionSimulationConflictError
  | invalidConnectorInvocationStateError
  | staleActionAuthorizationError
  | actionApprovalNotFoundError
  | actionApprovalConflictError
  | invalidActionApprovalStateError
  | actionExecutionConflictError
  | invalidActionExecutionStateError
  | staleActionSimulationError
  | unsupportedConnectorError
  | unsupportedConnectorOperationError
  | connectorExecutionUnavailableError
  | agentRunPersistenceConflictError
  | invalidModelUsageError
  | rangeError
  | pricingNotFoundError
  | pricingOverlapError
  | pricingCurrencyMismatchError
  | budgetNotFoundError
  | budgetExceededError
  | reservationExpiredError
  | duplicateProviderUsageError
  | monetaryOverflowError
  | invalidProviderResponseError
  | modelMismatchError
  | llmProviderError
  | invalidTaskTransitionError
  | invalidTaskCorrectionError
  | taskDependencyError
  | taskPrerequisiteIncompleteError
  | projectNotFoundError
  | taskNotFoundError
  | agentNotFoundError
  | officeManifestNotFoundError
  | officePipelineNotFoundError
  | activePipelineRunExistsError
  | pipelineDefinitionNotEnforcedError
  | pipelineDefinitionAmbiguousError
  | packPipelineUnsupportedError
  | pipelineRoleUnavailableError
  | pipelineRunNotFoundError
  | concurrentPipelineTransitionError
  | pipelineActorUnauthorizedError
  | taskCompletionApprovalError
  | taskReconciliationApprovalError
  | taskReconciliationStalePlanError
  | taskNotRunnableError
  | taskLockActiveError
  | storageError
  | typeError
  | canonicalSerializationError
  | resourceNotFoundError
  | pipelineStageOrchestrationError
  | capabilityPrincipalNotFoundError
  | invalidRelativePathError
  | invalidFilesystemConstraintsError
  | checkpointStoreError
  | checkpointExistsError
  | checkpointFormatError
  | fileSystemError
  | filesystemSymlinkDeniedError
  | filesystemHardLinkDeniedError
  | sensitiveFilesystemPathError
  | filesystemEntryNotFoundError
  | filesystemNotRegularFileError
  | filesystemNotDirectoryError
  | filesystemBinaryFileError
  | filesystemFileTooLargeError
  | filesystemSourceChangedError
  | filesystemOutputTooLargeError
  | filesystemDiffTooLargeError
  | filesystemOperationAbortedError
  | pathOutsideRootError
  | domainPackManifestError
  | workerRuntimeError
  | agentClientIntegrationError
  | agentClientPlanConflictError
  | agentClientPlanApprovalError
  | projectBindingError
  | projectLifecycleError
  | projectSourceAssociationError
  | globalMemoryNotFoundError
  | globalMemoryDeprecatedError
  | globalMemoryVersionConflictError
  deriving DecidableEq

structure Thrown where
  name : ErrorName
  message : String
  deriving DecidableEq

abbrev Date := Int

/-- The white space and line terminators that `trim` removes. -/
def isWhiteSpace (char : Char) : Bool :=
  char.val ∈ ([0x09, 0x0A, 0x0B, 0x0C, 0x0D, 0x20, 0xA0, 0x1680, 0x2028, 0x2029, 0x202F, 0x205F,
    0x3000, 0xFEFF] : List UInt32) || (0x2000 ≤ char.val && char.val ≤ 0x200A)

def trim (value : String) : String :=
  String.ofList ((value.toList.dropWhile isWhiteSpace).rdropWhile isWhiteSpace)

def utf16Length (value : String) : Nat :=
  (value.toList.map fun char => if char.val ≤ 0xFFFF then 1 else 2).sum

def includes (value part : String) : Bool :=
  value.toList.tails.any fun rest => part.toList.isPrefixOf rest

def validHash (value : String) : Bool :=
  value.length = 64 && value.toList.all fun char => char.isDigit || ('a' ≤ char && char ≤ 'f')

def Trimmed (value : String) : Prop := trim value = value

instance (value : String) : Decidable (Trimmed value) :=
  inferInstanceAs (Decidable (_ = _))

private theorem dropWhile_rdropWhile {chars : List Char} (clean : chars.dropWhile isWhiteSpace = chars) :
    (chars.rdropWhile isWhiteSpace).dropWhile isWhiteSpace = chars.rdropWhile isWhiteSpace := by
  rw [List.dropWhile_eq_self_iff] at clean ⊢
  intro nonempty
  have kept := List.rdropWhile_prefix isWhiteSpace chars
  rw [kept.getElem nonempty]
  exact clean (nonempty.trans_le kept.length_le)

theorem trim_trimmed (value : String) : Trimmed (trim value) := by
  unfold Trimmed trim
  rw [String.toList_ofList, dropWhile_rdropWhile (List.dropWhile_idempotent isWhiteSpace _),
    List.rdropWhile_idempotent]

theorem utf16Length_append (first second : String) :
    utf16Length (first ++ second) = utf16Length first + utf16Length second := by
  simp only [utf16Length, String.toList_append, List.map_append, List.sum_append]

theorem utf16Length_le (value : String) : utf16Length value ≤ 2 * value.length := by
  rw [utf16Length, ← String.length_toList]
  induction value.toList with
  | nil => exact Nat.zero_le _
  | cons char chars ih =>
    simp only [List.map_cons, List.sum_cons, List.length_cons]
    split <;> omega

private theorem units_sublist {chars others : List Char} (units : Char → Nat) (part : chars.Sublist others) :
    (chars.map units).sum ≤ (others.map units).sum := by
  induction part with
  | slnil => exact le_rfl
  | cons char part ih => rw [List.map_cons, List.sum_cons]; exact ih.trans (Nat.le_add_left _ _)
  | cons_cons char part ih => rw [List.map_cons, List.map_cons, List.sum_cons, List.sum_cons]; exact Nat.add_le_add_left ih _

theorem utf16Length_trim_le (value : String) : utf16Length (trim value) ≤ utf16Length value := by
  unfold utf16Length trim
  rw [String.toList_ofList]
  exact units_sublist _ ((List.rdropWhile_prefix isWhiteSpace _).sublist.trans (List.dropWhile_sublist isWhiteSpace))

theorem utf16Length_trim_pos {value : String} {char : Char} (member : char ∈ value.toList)
    (kept : isWhiteSpace char = false) : utf16Length (trim value) ≠ 0 := by
  intro empty
  unfold utf16Length trim at empty
  rw [String.toList_ofList] at empty
  cases trimmed : (value.toList.dropWhile isWhiteSpace).rdropWhile isWhiteSpace with
  | cons first rest =>
    rw [trimmed, List.map_cons, List.sum_cons] at empty
    split at empty <;> omega
  | nil =>
    have spaces := List.rdropWhile_eq_nil_iff.mp trimmed
    have gone : value.toList.dropWhile isWhiteSpace = [] := by
      cases rest : value.toList.dropWhile isWhiteSpace with
      | nil => rfl
      | cons first others =>
        have head := List.head?_dropWhile_not isWhiteSpace value.toList
        rw [rest] at head spaces
        simp [spaces first List.mem_cons_self] at head
    rw [List.dropWhile_eq_nil_iff.mp gone char member] at kept
    cases kept

theorem utf16Length_intercalate_le {values : List String} {bound : Nat} (separator : String)
    (each : ∀ value ∈ values, utf16Length value ≤ bound) :
    utf16Length (separator.intercalate values) ≤ values.length * (bound + utf16Length separator) := by
  induction values with
  | nil => exact Nat.zero_le _
  | cons value values ih =>
    obtain ⟨first, later⟩ := List.forall_mem_cons.mp each
    have rest := ih later
    cases values with
    | nil => rw [String.intercalate_singleton, List.length_singleton]; omega
    | cons next values =>
      rw [String.intercalate_cons_cons, utf16Length_append, utf16Length_append, List.length_cons, Nat.succ_mul]
      omega

theorem utf16Length_toString_le (number : Nat) {digits : Nat} (positive : 0 < digits) (small : number < 10 ^ digits) :
    utf16Length (toString number) ≤ 2 * digits :=
  (utf16Length_le _).trans (Nat.mul_le_mul_left 2 ((Nat.length_repr_le_iff positive).mpr small))

def required (value name : String) : Except Thrown String :=
  let normalized := trim value
  if normalized = "" then
    .error ⟨.domainValidationError, s!"{name} cannot be empty"⟩
  else
    .ok normalized

theorem required_ok {value name stored : String} (accepted : required value name = .ok stored) :
    stored = trim value ∧ stored ≠ "" := by
  simp only [required] at accepted
  split at accepted
  · cases accepted
  · next nonempty => cases accepted; exact ⟨rfl, nonempty⟩

theorem required_trim {value : String} (nonempty : trim value ≠ "") (name : String) :
    required value name = .ok (trim value) := by
  simp only [required, if_neg nonempty]

end AiOffice.Domain
