import RuleTree.Proofs.Execution

/-!
The rules that conditions reach through references. Where all of these hold a single condition,
evaluating an accepted rule comes to what the rule means with its references followed
(`evaluate_eq_meaning`).
-/

namespace RuleTree

open Inspection (Approved Entered Role)

/-! ## References -/

/-- The ids that a rule refers to, and those that the rules with these ids refer to in turn. -/
inductive Store.Reaches (store : Store) (rule : Rule) : String → Prop
  | direct {id} : id ∈ rule.references → Reaches store rule id
  | further {id stored other} :
      Reaches store rule id → store.get? id = some stored → other ∈ stored.references →
      Reaches store rule other

/-- All rules that a rule reaches hold a single condition. -/
def Store.ReachesConditions (store : Store) (rule : Rule) : Prop :=
  ∀ id stored, store.Reaches rule id → store.get? id = some stored →
    stored.conditions.isCondition = true

theorem Tree.mem_references_condition {q : Quantifier} {ts : List Tree} {result : Option Json}
    {id : String} :
    id ∈ (Tree.condition q ts result).references ↔ ∃ t ∈ ts, id ∈ t.references := by
  rw [references]
  induction ts with
  | nil => simp [referencesOf]
  | cons t ts ih => simp [referencesOf, ih]

theorem Rule.mem_references {rule : Rule} {root : Json} {t : Tree} {id : String}
    (hm : root ∈ rule.roots) (ht : Tree.ofJson root = .ok t) (hid : id ∈ t.references) :
    id ∈ rule.references :=
  List.mem_flatMap.mpr ⟨root, hm, by rw [ht]; exact hid⟩

theorem Rule.roots_of_isCondition {rule : Rule} (h : rule.conditions.isCondition = true) :
    rule.roots = [rule.conditions] := by
  obtain ⟨_, hc⟩ := Json.exists_of_isCondition h
  simp only [roots, hc]
  rfl

variable {store : Store} {limit : Nat} {isEmpty : Emptiness} {record : Json}

/-! ## Evaluation without a stumble -/

/-- A reference to a rule that holds a condition stumbles only where this condition does. -/
theorem not_stumbles_reference {role : Role} {chain : List String} {depth : Nat} {id : String}
    {node : Json} {target : Unfolding} (hc : node.isCondition = true)
    (ha : Approved store limit role chain depth node) (ht : Unfolds store node target)
    (hn : ¬ target.Stumbles isEmpty record) :
    ¬ (Unfolding.reference id target).Stumbles isEmpty record := by
  rw [Unfolding.stumbles_reference_iff]
  rintro (hunfit | hstumbles)
  · rcases Evaluation.condition_of_approved ha with ⟨_, _, hchildren, _⟩ | ⟨hnone, _⟩
    · obtain ⟨_, _, _, _, _, rfl⟩ := ht.of_children? hchildren
      cases hunfit
    · rw [hc] at hnone
      cases hnone
  · exact hn hstumbles

/-- An approved node that refers only to rules with a single condition does not stumble. -/
theorem not_stumbles_of_approved {rule : Rule} (hfit : store.ReachesConditions rule) {role : Role}
    {chain : List String} {depth : Nat} {node : Json}
    (h : Approved store limit role chain depth node) {t : Tree} (ht : Tree.ofJson node = .ok t)
    (hrefs : ∀ id ∈ t.references, store.Reaches rule id) {u : Unfolding}
    (hu : Unfolds store node u) : ¬ u.Stumbles isEmpty record := by
  -- A rule that is entered holds a condition and refers only to rules that are reached as well.
  have hentered {id : String} {stored : Rule} (hr : store.Reaches rule id)
      (hs : store.get? id = some stored) :
      stored.conditions.isCondition = true ∧ ∀ t, Tree.ofJson stored.conditions = .ok t →
        ∀ other ∈ t.references, store.Reaches rule other := by
    have hc := hfit id stored hr hs
    refine ⟨hc, fun t ht other ho => .further hr hs (Rule.mem_references ?_ ht ho)⟩
    rw [Rule.roots_of_isCondition hc]
    exact List.mem_singleton_self _
  induction h generalizing u t with
  | @condition role chain depth node nodes hd hf hc hn ih =>
    obtain ⟨q, us, hq, hl, hus, rfl⟩ := hu.of_children? hc
    obtain ⟨ts, hts, _, hread⟩ :=
      exists_condition_of_flawless hf hq hc fun child hm => (hn child hm).exists_tree
    obtain rfl := Except.ok.inj (hread.symm.trans ht)
    obtain ⟨hlt, hpairs⟩ := List.forall₂_iff_zip.mp hts
    rw [Unfolding.stumbles_condition_iff]
    rintro ⟨before, c, after, rfl, _, hstumbles⟩
    obtain ⟨child, hz⟩ := exists_mem_zip_of_mem_right hl
      (List.mem_append_right before (List.mem_cons_self (a := c) (l := after)))
    have hm := (List.of_mem_zip hz).1
    obtain ⟨t, hzt⟩ := exists_mem_zip_of_mem_left hlt hm
    have hchild (id : String) (hid : id ∈ t.references) : store.Reaches rule id :=
      hrefs id (Tree.mem_references_condition.mpr ⟨t, (List.of_mem_zip hzt).2, hid⟩)
    exact ih child hm (hpairs hzt) hchild (hus child c hz) hstumbles
  | leaf hn hf =>
    obtain rfl := hu.of_leafFlaw? hn hf
    exact Unfolding.not_stumbles_leaf
  | rootReference _ he ha ih | childReference he _ ha ih =>
    obtain ⟨target, htarget, rfl⟩ := hu.of_entered he
    cases ht
    obtain ⟨hc, hinner⟩ := hentered (hrefs _ (List.mem_singleton_self _)) he.stored
    obtain ⟨t, ht⟩ := ha.exists_tree
    exact not_stumbles_reference hc ha htarget (ih ht (hinner t ht) htarget)

theorem not_stumblesAmong_roots {rule : Rule} (h : (store.review limit rule).Accepted)
    (hfit : store.ReachesConditions rule) {us : List Unfolding}
    (hus : List.Forall₂ (Unfolds store) rule.roots us) :
    ¬ Unfolding.StumblesAmong isEmpty record .any us := by
  obtain ⟨_, _, ha⟩ := (Store.accepted_review_iff store limit rule).mp h
  obtain ⟨hl, hzip⟩ := List.forall₂_iff_zip.mp hus
  rintro ⟨before, u, after, rfl, _, hstumbles⟩
  obtain ⟨root, hz⟩ := exists_mem_zip_of_mem_right hl
    (List.mem_append_right before (List.mem_cons_self (a := u) (l := after)))
  have hm := (List.of_mem_zip hz).1
  obtain ⟨t, ht⟩ := (ha root hm).exists_tree
  have hrefs (id : String) (hid : id ∈ t.references) : store.Reaches rule id :=
    .direct (Rule.mem_references hm ht hid)
  exact not_stumbles_of_approved hfit (ha root hm) ht hrefs (hzip hz) hstumbles

/-! ## The meaning of a rule -/

/-- **Evaluation comes to the meaning of a rule.** Take an accepted rule that reaches only rules with a
single condition. Its references can be followed in one way. The evaluation succeeds; the matched root
is the first that holds with all of its children taken into account; the result is that of this root,
and the verdict is the result where that is a truth value, false if no root holds, and else true. -/
theorem evaluate_eq_meaning {rule : Rule} (h : (store.review limit rule).Accepted)
    (hfit : store.ReachesConditions rule) (isEmpty : Emptiness) (traced : Bool) (record : Json)
    (cache : PatternCache) :
    (∃! us, List.Forall₂ (Unfolds store) rule.roots us) ∧
    ∀ us, List.Forall₂ (Unfolds store) rule.roots us → ∃ report,
      (store.evaluate limit isEmpty traced rule record cache).1.outcome = .ok report ∧
      report.matchedRoot = us.findIdx? (·.holds isEmpty record) ∧
      report.result = (us.find? (·.holds isEmpty record)).bind (·.result?) ∧
      report.verdict =
        match us.find? (·.holds isEmpty record) with
        | none => false
        | some u =>
          match u.result? with
          | some (.bool b) => b
          | _ => true := by
  have hunique : Relator.RightUnique (Unfolds store) := fun _ _ _ => Unfolds.unique
  obtain ⟨us, hus⟩ := Store.exists_unfoldings_of_accepted h
  refine ⟨⟨us, hus, fun vs hvs => List.right_unique_forall₂' hunique hvs hus⟩, ?_⟩
  intro us hus
  obtain ⟨_, hok⟩ := Store.outcome_decide_of_accepted h hus isEmpty record cache
  obtain ⟨found, ho, hindex, hresult⟩ := hok (not_stumblesAmong_roots h hfit hus)
  refine ⟨_, by rw [Store.outcome_evaluate, ho]; rfl, hindex, ?_⟩
  cases found with
  | none =>
    have hnone : us.find? (·.holds isEmpty record) = none := by simpa using hresult.symm
    rw [hnone]
    exact ⟨rfl, rfl⟩
  | some matched =>
    obtain ⟨index, result⟩ := matched
    obtain ⟨u, hu, rfl⟩ := Option.map_eq_some_iff.mp hresult.symm
    rw [hu]
    exact ⟨rfl, rfl⟩

/-- A rule with two roots: no adult, and an adult with a result. -/
def adultRule : Rule :=
  ⟨"r", "", .array [.object [("none", .array [.string "adult"])],
    .object [("any", .array [.string "adult"]), ("result", .string "gold")]], none⟩

def adultUnfolding : Unfolding :=
  .reference "adult" (.condition .all (.object [("all", .array [agePresent])]) [.leaf agePresent])

theorem adultUnfolding_unfolds :
    Unfolds Store.sampleStore (.string "adult") adultUnfolding := by
  refine .reference rfl (.condition rfl rfl rfl fun _ _ hm => ?_)
  obtain ⟨rfl, rfl⟩ := Prod.mk.inj (List.mem_singleton.mp hm)
  exact .leaf rfl rfl

theorem adultRule_reaches {id : String} (h : Store.sampleStore.Reaches adultRule id) :
    id = "adult" := by
  induction h with
  | direct hm => simpa [show adultRule.references = ["adult", "adult"] from rfl] using hm
  | further _ hs hm ih =>
    subst ih
    cases hs
    cases hm

/-- The first root of the sample rule does not hold, the second does and brings its result. -/
theorem adultRule_report :
    (Store.sampleStore.review 64 adultRule).Accepted ∧
      Store.sampleStore.ReachesConditions adultRule ∧
      ∃ report, (Store.sampleStore.evaluate 64 .standard false adultRule Store.agedRecord
          (.empty 256)).1.outcome = .ok report ∧
        report.matchedRoot = some 1 ∧ report.result = some (.string "gold") ∧
        report.verdict = true := by
  have h : (Store.sampleStore.review 64 adultRule).Accepted := ⟨_, rfl, rfl⟩
  have hfit : Store.sampleStore.ReachesConditions adultRule := by
    intro id stored hr hs
    obtain rfl := adultRule_reaches hr
    cases hs
    rfl
  have hroots : List.Forall₂ (Unfolds Store.sampleStore) adultRule.roots
      [.condition .none (.object [("none", .array [.string "adult"])]) [adultUnfolding],
        .condition .any (.object [("any", .array [.string "adult"]), ("result", .string "gold")])
          [adultUnfolding]] := by
    refine .cons (.condition rfl rfl rfl fun _ _ hm => ?_)
      (.cons (.condition rfl rfl rfl fun _ _ hm => ?_) .nil)
    all_goals
      obtain ⟨rfl, rfl⟩ := Prod.mk.inj (List.mem_singleton.mp hm)
      exact adultUnfolding_unfolds
  obtain ⟨_, hmeaning⟩ :=
    evaluate_eq_meaning h hfit .standard false Store.agedRecord (.empty 256)
  obtain ⟨report, ho, hindex, hresult, hverdict⟩ := hmeaning _ hroots
  exact ⟨h, hfit, report, ho, hindex, hresult, hverdict⟩

end RuleTree
