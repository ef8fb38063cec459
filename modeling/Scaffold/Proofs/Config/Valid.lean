import Scaffold.Config.Valid
import Scaffold.Proofs.Outcome

/-!
# Which configurations are valid

A configuration is valid exactly if its clock is slow enough, its events are not declared empty, the
type of each user's state is declared, and in every record and every list of arguments the names of
the fields stay apart when they are sanitized (`validate_eq_ok_iff`). The walk over the names
carries the words that it has seen, so it checks that a name is new by looking back only.
-/

namespace Scaffold

namespace Config

/-- Sanitizing leaves something of each name, and keeps different names apart. -/
def Apart (fields : List String) : Prop :=
  (∀ field ∈ fields, Name.sanitize field ≠ "") ∧ (fields.map Name.sanitize).Nodup

theorem apart_nil : Apart [] := ⟨by simp, List.nodup_nil⟩

theorem apart_cons {field : String} {rest : List String} :
    Apart (field :: rest) ↔ Name.sanitize field ≠ "" ∧
      (∀ other ∈ rest, Name.sanitize other ≠ Name.sanitize field) ∧ Apart rest := by
  unfold Apart
  rw [List.forall_mem_cons, List.map_cons, List.nodup_cons, List.mem_map]
  constructor
  · rintro ⟨⟨hfield, hrest⟩, hnew, hnodup⟩
    exact ⟨hfield, fun other hother hsame => hnew ⟨other, hother, hsame⟩, hrest, hnodup⟩
  · rintro ⟨hfield, hnew, hrest, hnodup⟩
    exact ⟨⟨hfield, hrest⟩, fun ⟨other, hother, hsame⟩ => hnew other hother hsame, hnodup⟩

theorem checkNames_eq_ok_iff {owner : String} {seen fields : List String} :
    checkNames owner seen fields = .ok () ↔
      Apart fields ∧ ∀ field ∈ fields, Name.sanitize field ∉ seen := by
  induction fields generalizing seen with
  | nil => simp [checkNames, apart_nil]
  | cons field rest ih =>
      rw [checkNames, apart_cons, List.forall_mem_cons]
      by_cases hempty : Name.sanitize field = ""
      · simp [hempty]
      · by_cases hseen : Name.sanitize field ∈ seen
        · simp [hempty, hseen]
        · simp only [String.isEmpty_iff, hempty, hseen, if_false, ih, List.mem_cons, not_or]
          constructor
          · rintro ⟨hrest, hnew⟩
            exact ⟨⟨hempty, fun other hother => (hnew other hother).1, hrest⟩, not_false,
              fun other hother => (hnew other hother).2⟩
          · rintro ⟨⟨-, hnew, hrest⟩, -, hseen⟩
            exact ⟨hrest, fun other hother => ⟨hnew other hother, hseen other hother⟩⟩

theorem checkFields_eq_ok_iff {c : Config} :
    c.checkFields = .ok () ↔ ∀ owner ∈ c.fieldOwners, Apart owner.2 := by
  rw [checkFields, Outcome.forM_eq_ok_iff]
  simp only [checkNames_eq_ok_iff, List.not_mem_nil, not_false_eq_true, implies_true, and_true]

/-- The fields of every record and the arguments of every method stay apart. -/
def FieldsApart (c : Config) : Prop :=
  (∀ name fields, (name, TypeExpr.record fields) ∈ c.types → Apart (Table.keys fields)) ∧
    ∀ name args, (name, some args) ∈ c.methods → Apart (Table.keys args)

theorem forall_fieldOwners_iff {c : Config} :
    (∀ owner ∈ c.fieldOwners, Apart owner.2) ↔ c.FieldsApart := by
  unfold fieldOwners FieldsApart
  rw [List.forall_mem_append]
  constructor
  · rintro ⟨htypes, hmethods⟩
    refine ⟨?_, ?_⟩
    · intro name fields hmem
      exact htypes (name, Table.keys fields) (List.mem_filterMap.2 ⟨_, hmem, rfl⟩)
    · intro name args hmem
      exact hmethods (name, args.keys) (List.mem_filterMap.2 ⟨_, hmem, rfl⟩)
  · rintro ⟨htypes, hmethods⟩
    refine ⟨?_, ?_⟩
    · intro owner howner
      obtain ⟨⟨name, type⟩, hmem, hsome⟩ := List.mem_filterMap.1 howner
      cases type with
      | name text => cases hsome
      | list items => cases hsome
      | record fields =>
          cases hsome
          exact htypes name fields hmem
    · intro owner howner
      obtain ⟨⟨name, args⟩, hmem, hsome⟩ := List.mem_filterMap.1 howner
      cases args with
      | none => cases hsome
      | some args =>
          cases hsome
          exact hmethods name args hmem

theorem checkTick_eq_ok_iff {c : Config} :
    c.checkTick = .ok () ↔ ∀ period ∈ c.tick, 25 ≤ period := by
  unfold checkTick
  cases c.tick with
  | none => simp
  | some period =>
      by_cases hfast : period < 25
      · simp [minTick, hfast]
      · simp [minTick, hfast, Int.not_lt.1 hfast]

theorem checkEvents_eq_ok_iff {c : Config} : c.checkEvents = .ok () ↔ c.events ≠ some [] := by
  unfold checkEvents
  split
  · rename_i hnone
    simp [hnone]
  · rename_i hsome
    simpa using hsome

theorem checkUserState_eq_ok_iff {c : Config} :
    c.checkUserState = .ok () ↔ c.types.contains c.userState = true := by
  unfold checkUserState hasType
  by_cases hdeclared : c.types.contains c.userState = true
  · simp [hdeclared]
  · simp [hdeclared]

theorem validate_eq_ok_iff {c : Config} :
    c.validate = .ok () ↔ (∀ period ∈ c.tick, 25 ≤ period) ∧ c.events ≠ some [] ∧
      c.types.contains c.userState = true ∧ c.FieldsApart := by
  rw [validate, Outcome.check_bind_eq_ok_iff, Outcome.check_bind_eq_ok_iff,
    Outcome.check_bind_eq_ok_iff, checkTick_eq_ok_iff, checkEvents_eq_ok_iff,
    checkUserState_eq_ok_iff, checkFields_eq_ok_iff, forall_fieldOwners_iff]

end Config

end Scaffold
