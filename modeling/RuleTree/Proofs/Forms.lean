import RuleTree.Proofs.Changes
import RuleTree.Proofs.Commands

/-!
The forms in which a rule is handed in for review: an object that is written down, the rule that is read
from it, and the id under which that rule is stored. A review looks at an id and at conditions, and these
are the same in all three, whatever else the object holds and whatever time the store writes into the
rule (`forms_reviewed_alike`). A rule may also be read from an array, but as it is written no array is
accepted.
-/

namespace RuleTree

namespace Store

/-- When a rule was stored is not reviewed. -/
theorem review_restamped (store : Store) (limit : Nat) (rule : Rule) (time : Option Time) :
    store.review limit { rule with updatedAt := time } = store.review limit rule := rfl

theorem reviewJson_of_isObject_eq_false (store : Store) (limit : Nat) {value : Json}
    (h : value.isObject = false) :
    store.reviewJson limit value = ⟨[], .ok (.refused Flaw.notRule.message value)⟩ := by
  rw [reviewJson, if_neg (by simp [h])]
  rfl

end Store

namespace Engine

variable {start engine : Engine} {history : List (Request × Except Failure Reply)} {rule : Rule}

theorem review_inline_fst (engine : Engine) (rule : Rule) :
    (engine.review (.inline rule)).1 = (engine.reviewOf rule).outcome :=
  reviewed_fst engine _

/-- A rule that was stored, and neither replaced nor taken away since, is found and reviewed under its
id. -/
theorem Run.review_stored (h : start.Run history engine)
    (hlast : Change.last? rule.id (changesOf history) = some (.stored rule)) :
    (engine.review (.stored rule.id)).1 = (engine.reviewOf rule).outcome := by
  have hleaves := h.get?_leaves rule.id
  rw [hlast] at hleaves
  obtain ⟨now, hfound⟩ := hleaves
  have hsame : engine.reviewOf { rule with updatedAt := some now } = engine.reviewOf rule :=
    engine.store.review_restamped engine.config.maxDepth rule (some now)
  rw [review_stored_fst hfound, hsame]

/-- **All forms of a rule are reviewed alike.** Let a rule be read from an object. The review of the object
and that of the rule look the same ids up and come to the same, in every store and under every limit.
So an engine answers the same for the object and for the rule, and also for the id of the rule, if the
rule is what was stored under it last. What is no object is refused as it is written, even if a rule can
be read from it. -/
theorem forms_reviewed_alike (value : Json) :
    (value.isObject = true → ∀ rule, Rule.ofJson value = .ok rule →
      (∀ (store : Store) (limit : Nat), store.reviewJson limit value = store.review limit rule) ∧
      (∀ engine : Engine, (engine.review (.inline rule)).1 = (engine.reviewJson value).1) ∧
      ∀ (start : Engine) history engine, start.Run history engine →
        Change.last? rule.id (changesOf history) = some (.stored rule) →
        (engine.review (.stored rule.id)).1 = (engine.reviewJson value).1) ∧
    (value.isObject = false → ∀ (store : Store) (limit : Nat),
      (store.reviewJson limit value).outcome = .ok (.refused Flaw.notRule.message value)) := by
  refine ⟨fun ho rule hr => ?_, fun ho store limit => ?_⟩
  · have hstore (store : Store) (limit : Nat) : store.reviewJson limit value = store.review limit rule :=
      store.reviewJson_eq_review limit ho hr
    have hjson (engine : Engine) : (engine.reviewJson value).1 = (engine.reviewOf rule).outcome := by
      rw [reviewJson_fst, hstore, reviewOf]
    refine ⟨hstore, fun engine => ?_, fun start history engine hrun hlast => ?_⟩
    · rw [hjson, review_inline_fst]
    · rw [hjson, hrun.review_stored hlast]
  · rw [store.reviewJson_of_isObject_eq_false limit ho]

/-- A rule with an unknown key, a time from long ago and no label. -/
def staleObject : Json :=
  .object [("conditions", .object [("all", .array [.string "leaf"])]), ("id", .string "r"),
    ("note", .null), ("updated_at", .string "1999-12-31T23:59:60Z")]

def staleRule : Rule :=
  ⟨"r", "", .object [("all", .array [.string "leaf"])], some ⟨946684799, 1000000000⟩⟩

def staleArray : Json :=
  .array [.string "r", .string "", .object [("all", .array [.string "leaf"])]]

/-- Requests by which the rule is stored among others. -/
def staleRequests : List Request :=
  [.load staleRule, .load ⟨"leaf", "", agePresent, none⟩, .delete "other", .get "r"]

/-- The rule is accepted in three forms, and the array is refused. -/
theorem staleObject_reviewed_alike :
    let start := Engine.new .standard .standard .recording .empty
    let engine := (start.performAll ⟨0, 0⟩ staleRequests).2
    Rule.ofJson staleObject = .ok staleRule ∧ (engine.reviewJson staleObject).1 = .ok .ok ∧
      (engine.review (.inline staleRule)).1 = .ok .ok ∧ (engine.review (.stored "r")).1 = .ok .ok ∧
      Rule.ofJson staleArray = .ok { staleRule with updatedAt := none } ∧
      (engine.store.reviewJson 64 staleArray).outcome =
        .ok (.refused "rule must be a valid object" staleArray) := by
  intro start engine
  have hrule : Rule.ofJson staleObject = .ok staleRule := rfl
  have harray : Rule.ofJson staleArray = .ok { staleRule with updatedAt := none } := rfl
  have haccepted : (engine.reviewJson staleObject).1 = .ok .ok := rfl
  obtain ⟨halike, _⟩ := forms_reviewed_alike staleObject
  obtain ⟨_, hrefused⟩ := forms_reviewed_alike staleArray
  obtain ⟨_, hinline, hstored⟩ := halike rfl staleRule hrule
  have hrun := run_performAll start ⟨0, 0⟩ staleRequests
  refine ⟨hrule, haccepted, (hinline engine).trans haccepted, ?_, harray, hrefused rfl _ _⟩
  exact (hstored start _ engine hrun rfl).trans haccepted

end Engine

end RuleTree
