import AgentIam.Authz.Cedar
import Mathlib.Algebra.BigOperators.Group.List

/-!
# Policy validation (`authz/validation.rs`)

`PolicyValidator` checks Cedar policy texts, one at a time or in a batch.

* `validatePolicyString` parses a text (`Cedar.parse`) and hands the policy to
  `validatePolicy`, the schema check of the Cedar validator, a parameter here; a text that does
  not parse is an invalid result with one error.
* `validatePolicies` runs a validator of single texts over a batch, collecting the results in a
  `HashMap` keyed by policy id, and `BatchValidationResult.new` reads `overall_valid` off the
  map's values.

The map keeps one result per id, the last one written. With distinct ids the batch result
reports every policy (`validatePolicies_of_nodup`); a repeated id hides the results written
before it under that id, an invalid one included.
-/

namespace AgentIam.Validation

open Cedar

/-- `PolicyValidationResult`. -/
structure PolicyValidationResult where
  isValid : Bool
  errors : List String
  warnings : List String

/-- `PolicyValidationResult::invalid`. -/
def PolicyValidationResult.invalid (errors : List String) : PolicyValidationResult :=
  ⟨false, errors, []⟩

/-- `BatchValidationResult`: the results by policy id, in the map's iteration order. -/
structure BatchValidationResult where
  results : List (String × PolicyValidationResult)
  overallValid : Bool

/-- `BatchValidationResult::new`. -/
def BatchValidationResult.new (results : List (String × PolicyValidationResult)) :
    BatchValidationResult :=
  ⟨results, results.all (·.2.isValid)⟩

/-- `BatchValidationResult::total_errors`. -/
def BatchValidationResult.totalErrors (b : BatchValidationResult) : ℕ :=
  (b.results.map (·.2.errors.length)).sum

/-- `PolicyValidator::validate_policy_string`, with the schema check `validatePolicy`. -/
def validatePolicyString (parse : String → Except String PolicyBody)
    (validatePolicy : PolicyBody → Except AppError PolicyValidationResult) (policyStr : String) :
    Except AppError PolicyValidationResult :=
  match parse policyStr with
  | .error e => .ok (.invalid ["Failed to parse policy: " ++ e])
  | .ok policy => validatePolicy policy

/-- `HashMap::insert`: the entry replaces the key's older one. -/
def insertResult (results : List (String × PolicyValidationResult)) (policyId : String)
    (result : PolicyValidationResult) : List (String × PolicyValidationResult) :=
  (policyId, result) :: results.filter (·.1 ≠ policyId)

section Batch

variable (validatePolicyString : String → Except AppError PolicyValidationResult)

/-- The loop of `validate_policies`, inserting each result into `results`. -/
def validateEach : List (String × PolicyValidationResult) → List (String × String) →
    Except AppError (List (String × PolicyValidationResult))
  | results, [] => .ok results
  | results, (policyId, policyStr) :: rest => do
    let result ← validatePolicyString policyStr
    validateEach (insertResult results policyId result) rest

/-- `PolicyValidator::validate_policies`, with `validatePolicyString` the validator of one
text. -/
def validatePolicies (policies : List (String × String)) :
    Except AppError BatchValidationResult :=
  (validateEach validatePolicyString [] policies).map BatchValidationResult.new

/-! ### Batches with distinct ids -/

variable {validatePolicyString}

/-- With every text validated and no id repeated, nor already in `results`, the loop adds one
result per policy, the last first. -/
theorem validateEach_of_nodup {f : String → PolicyValidationResult}
    (hf : ∀ t, validatePolicyString t = .ok (f t)) :
    ∀ (results : List (String × PolicyValidationResult)) (policies : List (String × String)),
      (policies.map (·.1)).Nodup → (∀ p ∈ policies, p.1 ∉ results.map (·.1)) →
      validateEach validatePolicyString results policies =
        .ok ((policies.map fun p => (p.1, f p.2)).reverse ++ results)
  | results, [], _, _ => rfl
  | results, (policyId, policyStr) :: rest, hnd, hfresh => by
    obtain ⟨hid, hnd⟩ := List.nodup_cons.1 hnd
    have hins : insertResult results policyId (f policyStr) = (policyId, f policyStr) :: results := by
      refine congrArg _ (List.filter_eq_self.2 fun q hq => ?_)
      have hne : q.1 ≠ policyId := fun h => hfresh _ (.head _)
        (h ▸ List.mem_map_of_mem (fun x : String × PolicyValidationResult => x.1) hq)
      simpa using hne
    have hrest : ∀ p ∈ rest, p.1 ∉ ((policyId, f policyStr) :: results).map (·.1) := by
      intro p hp
      simp only [List.map_cons, List.mem_cons, not_or]
      refine ⟨fun h => hid ?_, hfresh p (.tail _ hp)⟩
      simpa [h] using List.mem_map_of_mem (fun x : String × String => x.1) hp
    show (validatePolicyString policyStr >>= fun result =>
      validateEach validatePolicyString (insertResult results policyId result) rest) = _
    rw [hf]
    show validateEach validatePolicyString (insertResult results policyId (f policyStr)) rest = _
    rw [hins, validateEach_of_nodup hf _ rest hnd hrest]
    simp

/-- **A batch of distinct ids reports every policy**: it is valid exactly when every policy
is, and its errors are those of all the policies. -/
theorem validatePolicies_of_nodup {f : String → PolicyValidationResult}
    (hf : ∀ t, validatePolicyString t = .ok (f t)) {policies : List (String × String)}
    (hnd : (policies.map (·.1)).Nodup) :
    ∃ b, validatePolicies validatePolicyString policies = .ok b ∧
      (b.overallValid = true ↔ ∀ p ∈ policies, (f p.2).isValid = true) ∧
      b.totalErrors = (policies.map fun p => (f p.2).errors.length).sum := by
  refine ⟨_, by rw [validatePolicies, validateEach_of_nodup hf [] policies hnd (by simp)]; rfl,
    ?_, ?_⟩
  · simp only [BatchValidationResult.new, List.append_nil, List.all_reverse, List.all_map,
      List.all_eq_true, Function.comp_def, List.forall_mem_map]
  · simp [BatchValidationResult.totalErrors, BatchValidationResult.new, List.sum_reverse,
      Function.comp_def]

end Batch

/-- A validator that rejects the text `bad`. -/
def rejectBad (policyStr : String) : Except AppError PolicyValidationResult :=
  .ok (if policyStr = "bad" then .invalid ["rejected"] else ⟨true, [], []⟩)

/-- Two policies under one id, the first invalid: the batch is valid, with no error. -/
theorem repeated_id_hides_invalid :
    rejectBad "bad" = .ok (.invalid ["rejected"]) ∧
    ∃ b, validatePolicies rejectBad [("p", "bad"), ("p", "good")] = .ok b ∧
      b.overallValid = true ∧ b.totalErrors = 0 :=
  ⟨rfl, _, rfl, rfl, rfl⟩

end AgentIam.Validation
