import RuleTree.Proofs.EntryPoints

/-!
Lists of roots. Each root is reviewed by itself: no other root has a say in it. So to review two lists
joined is to review one after the other (`conditions_append`). What is refused in one root does not
keep a later one from being reviewed, but a root that cannot be reviewed fails them all. A single root
may stand with or without an array around it (`conditions_bare`).
-/

namespace RuleTree

namespace Review

/-- Reviews that are joined to a first one can be joined before that. -/
theorem foldl_merge (first : Review) (reviews : List Review) :
    reviews.foldl merge first = first.merge (reviews.foldl merge ok) := by
  induction reviews generalizing first with
  | nil => simp
  | cons review rest ih =>
    have hrest : rest.foldl merge (ok.merge review) = review.merge (rest.foldl merge ok) := by
      rw [ok_merge, ih]
    rw [List.foldl_cons, List.foldl_cons, ih, hrest, merge_assoc]

theorem foldl_merge_append (reviews others : List Review) :
    (reviews ++ others).foldl merge ok = (reviews.foldl merge ok).merge (others.foldl merge ok) := by
  rw [List.foldl_append, foldl_merge]

end Review

namespace Inspection

variable (store : Store) (limit : Nat) (origin : Option String)

theorem roots_append (nodes others : List Json) :
    roots store limit origin (nodes ++ others) = do
      let first ← roots store limit origin nodes
      let second ← roots store limit origin others
      return first.merge second := by
  simp only [roots, List.mapM_append, bind_assoc, pure_bind, Review.foldl_merge_append]

theorem roots_singleton (node : Json) :
    roots store limit origin [node] = root store limit origin node := by
  have hone (review : Review) : [review].foldl Review.merge .ok = review := by simp
  simp only [roots, List.mapM_cons, List.mapM_nil, bind_assoc, pure_bind, hone, bind_pure]

/-- What comes of a list of roots is what comes of each root by itself. -/
theorem outcome_roots (nodes : List Json) :
    (roots store limit origin nodes).outcome =
      (nodes.mapM fun node => (root store limit origin node).outcome).map
        fun reviews => reviews.foldl Review.merge .ok := by
  rw [roots, Logged.outcome_bind, Logged.outcome_mapM]
  cases nodes.mapM fun node => (root store limit origin node).outcome <;> rfl

/-! ## Arrays of roots -/

variable {nodes others : List Json}

/-- An array is reviewed root by root if it has a root and the first one is not empty. -/
theorem conditions_array (hn : nodes ≠ []) (hf : nodes.head? ≠ some (.object [])) :
    conditions store limit origin (.array nodes) = roots store limit origin nodes := by
  have hflaw : (Json.array nodes).conditionsFlaw? = none :=
    (conditionsFlaw?_eq_none_iff (.array nodes)).mpr ⟨hn, hf⟩
  rw [conditions, hflaw]
  rfl

theorem conditions_append (hn : nodes ≠ []) (hf : nodes.head? ≠ some (.object []))
    (ho : others ≠ []) (hg : others.head? ≠ some (.object [])) :
    conditions store limit origin (.array (nodes ++ others)) = do
      let first ← conditions store limit origin (.array nodes)
      let second ← conditions store limit origin (.array others)
      return first.merge second := by
  have hne : nodes ++ others ≠ [] := List.append_ne_nil_of_left_ne_nil hn others
  have hhead : (nodes ++ others).head? ≠ some (.object []) := by
    rwa [List.head?_append_of_ne_nil nodes hn]
  rw [conditions_array store limit origin hn hf, conditions_array store limit origin ho hg,
    conditions_array store limit origin hne hhead, roots_append]

theorem conditions_singleton {node : Json} (h : node ≠ .object []) :
    conditions store limit origin (.array [node]) = root store limit origin node := by
  have hhead : [node].head? ≠ some (.object []) := by simpa using h
  rw [conditions_array store limit origin (List.cons_ne_nil node []) hhead, roots_singleton]

/-- A root without an array around it is reviewed as the array that holds it. -/
theorem conditions_bare {node : Json} (ha : node.isArray = false) (hn : node ≠ .null)
    (he : node ≠ .object []) :
    conditions store limit origin node = conditions store limit origin (.array [node]) := by
  have hroots : rootsOf node = [node] := by
    cases node with
    | array nodes => cases ha
    | null => exact absurd rfl hn
    | _ => rfl
  have hflaw : node.conditionsFlaw? = none := by
    rw [conditionsFlaw?_eq_none_iff, hroots]
    exact ⟨List.cons_ne_nil node [], by simpa using he⟩
  rw [conditions_singleton store limit origin he, conditions, hflaw, hroots, roots_singleton]

/-- **Lists of roots are reviewed part by part.** Of two lists of roots the failure of the first comes
before that of the second; where neither fails, both have to be accepted and the first defect is kept. For
each root is reviewed by itself, and the first that fails makes the whole list fail, whether or not a root
before it was refused. A root without an array around it is reviewed as one within. -/
theorem joined_roots_reviewed (hn : nodes ≠ []) (hf : nodes.head? ≠ some (.object []))
    (ho : others ≠ []) (hg : others.head? ≠ some (.object [])) :
    (conditions store limit origin (.array (nodes ++ others))).outcome =
      (match (conditions store limit origin (.array nodes)).outcome,
          (conditions store limit origin (.array others)).outcome with
        | .error e, _ => .error e
        | .ok _, .error e => .error e
        | .ok first, .ok second =>
          .ok ⟨first.accepted && second.accepted, first.defect <|> second.defect⟩) ∧
    (∃ answers, OneByOne (fun node => (root store limit origin node).outcome) nodes answers ∧
      (conditions store limit origin (.array nodes)).outcome =
        answers.map fun reviews => reviews.foldl Review.merge .ok) ∧
    (∀ node, node ≠ .object [] →
      conditions store limit origin (.array [node]) = root store limit origin node) ∧
    ∀ node, node.isArray = false → node ≠ .null → node ≠ .object [] →
      conditions store limit origin node = conditions store limit origin (.array [node]) := by
  refine ⟨?_, ⟨_, oneByOne_iff.mpr rfl, ?_⟩, fun node he => conditions_singleton _ _ _ he,
    fun node => conditions_bare store limit origin⟩
  · rw [conditions_append store limit origin hn hf ho hg, Logged.outcome_bind]
    cases (conditions store limit origin (.array nodes)).outcome with
    | error e => rfl
    | ok first =>
      show (conditions store limit origin (.array others) >>= fun second =>
        pure (first.merge second)).outcome = _
      rw [Logged.outcome_bind]
      cases (conditions store limit origin (.array others)).outcome with
      | error e => rfl
      | ok second => rfl
  · rw [conditions_array store limit origin hn hf, outcome_roots]

/-- A root that is accepted where the rule `adult` is stored. -/
def adultRoot : Json := .string "adult"

def emptyBranchRoot : Json := .object [("all", .array [])]

def missingRoot : Json := .object [("any", .array [.string "missing"])]

/-- The missing rule fails the whole list although a root before it is refused; without it the defect is
that of the refused root, wherever an accepted one stands. -/
theorem emptyBranchRoot_joined :
    let review := fun nodes => conditions Store.sampleStore 64 none (.array nodes)
    (∃ e, (review [missingRoot]).outcome = .error e ∧
      (review ([adultRoot, emptyBranchRoot] ++ [missingRoot])).outcome = .error e) ∧
    (review ([adultRoot, emptyBranchRoot] ++ [adultRoot])).outcome =
      .ok (.refused "condition branch must contain at least one node" emptyBranchRoot) := by
  intro review
  have hfirst : [adultRoot, emptyBranchRoot].head? ≠ some (.object []) := nofun
  have hmissing := joined_roots_reviewed Store.sampleStore 64 none (List.cons_ne_nil _ _) hfirst
    (List.cons_ne_nil missingRoot []) nofun
  have hadult := joined_roots_reviewed Store.sampleStore 64 none (List.cons_ne_nil _ _) hfirst
    (List.cons_ne_nil adultRoot []) nofun
  exact ⟨⟨.notFound "missing", rfl, hmissing.1⟩, hadult.1⟩

end Inspection

end RuleTree
