import RuleTree.Proofs.Recording

/-!
The trace of an evaluation and the course that it took. A course is the tree of the nodes that were visited:
each condition stands above its children up to the first that decides it, and a reference is replaced by
what it stands for. A tree has at most one course (`Goes.unique`), whatever the evaluation writes. A report
with a trace is printed from the courses of the roots, line by line (`Store.trace_of_courses`).
-/

namespace RuleTree

namespace Quantifier

variable {q : Quantifier}

/-- Children that come to the given values are visited up to the first that decides. Where none of them
does, none is left unseen. -/
def StopsAfter (q : Quantifier) (values : List Bool) (unseen : List Tree) : Prop :=
  (∀ held ∈ values, q.decidedBy held = false) ∧ unseen = [] ∨
    ∃ before last, values = before ++ [last] ∧ (∀ held ∈ before, q.decidedBy held = false) ∧
      q.decidedBy last = true

theorem stopsAfter_nil_iff {unseen : List Tree} : q.StopsAfter [] unseen ↔ unseen = [] := by
  simp [StopsAfter]

theorem stopsAfter_cons_iff {held : Bool} {values : List Bool} {unseen : List Tree} :
    q.StopsAfter (held :: values) unseen ↔
      q.decidedBy held = true ∧ values = [] ∨
        q.decidedBy held = false ∧ q.StopsAfter values unseen := by
  constructor
  · rintro (⟨hall, hunseen⟩ | ⟨before, last, he, hbefore, hlast⟩)
    · obtain ⟨hfirst, hrest⟩ := List.forall_mem_cons.mp hall
      exact .inr ⟨hfirst, .inl ⟨hrest, hunseen⟩⟩
    · cases before with
      | nil =>
        cases he
        exact .inl ⟨hlast, rfl⟩
      | cons first before =>
        cases he
        obtain ⟨hfirst, hrest⟩ := List.forall_mem_cons.mp hbefore
        exact .inr ⟨hfirst, .inr ⟨before, last, rfl, hrest, hlast⟩⟩
  · rintro (⟨hlast, rfl⟩ | ⟨hfirst, ⟨hall, hunseen⟩ | ⟨before, last, rfl, hbefore, hlast⟩⟩)
    · exact .inr ⟨[], held, rfl, by simp, hlast⟩
    · exact .inl ⟨List.forall_mem_cons.mpr ⟨hfirst, hall⟩, hunseen⟩
    · exact .inr ⟨held :: before, last, rfl, List.forall_mem_cons.mpr ⟨hfirst, hbefore⟩, hlast⟩

end Quantifier

/-! ## Courses -/

/-- The nodes that an evaluation visits: a constraint with what it came to, or a condition with the number
of its children and the courses of those that were visited. -/
inductive Course
  | tested (leaf : Constraint) (held : Bool)
  | entered (quantifier : Quantifier) (children : Nat) (visited : List Course)

namespace Course

mutual

/-- What the node came to: a condition joins what its visited children came to. -/
def held : Course → Bool
  | .tested _ held => held
  | .entered q _ visited => q.join (heldEach visited)

def heldEach : List Course → List Bool
  | [] => []
  | course :: rest => course.held :: heldEach rest

end

theorem heldEach_eq_map (courses : List Course) : heldEach courses = courses.map held := by
  induction courses with
  | nil => rfl
  | cons course rest ih => rw [heldEach, ih, List.map_cons]

end Course

/-- What is told on the way: a condition whose children are about to be evaluated, what it came to, what a
constraint came to, and the verdict where a root decides. -/
inductive Remark
  | opened (quantifier : Quantifier) (children : Nat)
  | closed (quantifier : Quantifier) (held : Bool)
  | tested (leaf : Constraint) (held : Bool)
  | settled (verdict : Bool)

namespace Remark

def line (path : String) : Remark → String
  | .opened q children =>
    path ++ ": evaluating " ++ q.key ++ " (" ++ toString children ++ " children)"
  | .closed q held => path ++ ": " ++ q.key ++ " => " ++ (if held then "MATCHED" else "NOT_MATCHED")
  | .tested c held =>
    path ++ ": " ++ (c.field ++ " " ++ c.operator.name ++ " " ++ c.value.compact) ++ " => " ++
      (if held then "MATCHED" else "NOT_MATCHED")
  | .settled verdict => path ++ ": matched, verdict " ++ (if verdict then "true" else "false")

/-- The entry among the constraints that held. -/
def matched? (path : String) : Remark → Option String
  | .tested c true =>
    some (path ++ ": " ++ (c.field ++ " " ++ c.operator.name ++ " " ++ c.value.compact))
  | _ => none

end Remark

namespace Course

def pathBelow (path : String) (q : Quantifier) (index : Nat) : String :=
  path ++ "." ++ q.key ++ "[" ++ toString index ++ "]"

mutual

/-- The remarks on a node, each with its path. Those on a condition enclose those on its visited children
in order. -/
def remarks (path : String) : Course → List (String × Remark)
  | .tested c held => [(path, .tested c held)]
  | .entered q children visited =>
    (path, .opened q children) :: remarksFrom path q 0 visited ++
      [(path, .closed q (q.join (heldEach visited)))]

def remarksFrom (path : String) (q : Quantifier) (index : Nat) :
    List Course → List (String × Remark)
  | [] => []
  | course :: rest =>
    course.remarks (pathBelow path q index) ++ remarksFrom path q (index + 1) rest

end

/-- The remarks on a root, where the given verdict is told if it decides. -/
def rootRemarks (verdict : Bool) (index : Nat) (course : Course) : List (String × Remark) :=
  let path := "conditions[" ++ toString index ++ "]"
  course.remarks path ++ if course.held then [(path, .settled verdict)] else []

def rootsRemarks (verdict : Bool) (index : Nat) (courses : List Course) : List (String × Remark) :=
  (courses.zipIdx index).flatMap fun (course, index) => course.rootRemarks verdict index

end Course

/-! ## The course of a tree -/

section Goes

variable (store : Store) (isEmpty : Emptiness) (record : Json)

/-- The course that a tree takes on a record. Nothing is asked of what is not visited: it may refer to
missing rules. -/
inductive Goes : Tree → Course → Prop
  | constraint (c : Constraint) : Goes (.constraint c) (.tested c (c.holds isEmpty record))
  | reference {id stored c course} : store.get? id = some stored →
      Condition.ofJson stored.conditions = .ok c → Goes c.tree course → Goes (.reference id) course
  | condition {q ts result seen unseen visited} : ts = seen ++ unseen →
      seen.length = visited.length → (∀ t course, (t, course) ∈ seen.zip visited → Goes t course) →
      q.StopsAfter (Course.heldEach visited) unseen →
      Goes (.condition q ts result) (.entered q ts.length visited)

/-- The courses of children, or of the roots of a rule, up to the first that decides. -/
def GoesAmong (q : Quantifier) (ts : List Tree) (visited : List Course) : Prop :=
  ∃ seen unseen, ts = seen ++ unseen ∧ seen.length = visited.length ∧
    (∀ t course, (t, course) ∈ seen.zip visited → Goes store isEmpty record t course) ∧
    q.StopsAfter (Course.heldEach visited) unseen

variable {store isEmpty record} {q : Quantifier} {ts : List Tree}

theorem goes_condition_iff {result : Option Json} {course : Course} :
    Goes store isEmpty record (.condition q ts result) course ↔
      ∃ visited, course = .entered q ts.length visited ∧
        GoesAmong store isEmpty record q ts visited := by
  constructor
  · intro h
    cases h with
    | condition hts hl hgoes hstops => exact ⟨_, rfl, _, _, hts, hl, hgoes, hstops⟩
  · rintro ⟨visited, rfl, seen, unseen, hts, hl, hgoes, hstops⟩
    exact .condition hts hl hgoes hstops

theorem goesAmong_nil_iff {visited : List Course} :
    GoesAmong store isEmpty record q [] visited ↔ visited = [] := by
  constructor
  · rintro ⟨seen, unseen, hts, hl, _⟩
    obtain ⟨rfl, _⟩ := List.nil_eq_append_iff.mp hts
    exact List.length_eq_zero_iff.mp hl.symm
  · rintro rfl
    exact ⟨[], [], rfl, rfl, by simp, Quantifier.stopsAfter_nil_iff.mpr rfl⟩

/-- The first child is visited, and the others are if it does not decide. -/
theorem goesAmong_cons_iff {t : Tree} {visited : List Course} :
    GoesAmong store isEmpty record q (t :: ts) visited ↔
      ∃ course rest, visited = course :: rest ∧ Goes store isEmpty record t course ∧
        (q.decidedBy course.held = true ∧ rest = [] ∨
          q.decidedBy course.held = false ∧ GoesAmong store isEmpty record q ts rest) := by
  constructor
  · rintro ⟨seen, unseen, hts, hl, hgoes, hstops⟩
    cases visited with
    | nil =>
      obtain rfl := List.length_eq_zero_iff.mp hl
      rw [Course.heldEach, Quantifier.stopsAfter_nil_iff] at hstops
      subst hstops
      cases hts
    | cons course rest =>
      cases seen with
      | nil => cases hl
      | cons first seen =>
        cases hts
        obtain ⟨hfirst, hseen⟩ := forall_mem_zip_cons_iff.mp hgoes
        refine ⟨course, rest, rfl, hfirst, ?_⟩
        rcases Quantifier.stopsAfter_cons_iff.mp hstops with ⟨hdecided, hrest⟩ | ⟨hundecided, hstops⟩
        · have hnone : rest = [] := by simpa [Course.heldEach_eq_map] using hrest
          exact .inl ⟨hdecided, hnone⟩
        · exact .inr ⟨hundecided, seen, unseen, rfl, Nat.succ.inj hl, hseen, hstops⟩
  · rintro ⟨course, rest, rfl, hfirst, ⟨hdecided, rfl⟩ | ⟨hundecided, hrest⟩⟩
    · refine ⟨[t], ts, rfl, rfl, forall_mem_zip_cons_iff.mpr ⟨hfirst, by simp⟩, ?_⟩
      exact Quantifier.stopsAfter_cons_iff.mpr (.inl ⟨hdecided, rfl⟩)
    · obtain ⟨seen, unseen, rfl, hl, hgoes, hstops⟩ := hrest
      have hpairs := forall_mem_zip_cons_iff.mpr ⟨hfirst, hgoes⟩
      refine ⟨t :: seen, unseen, rfl, by simp [hl], hpairs, ?_⟩
      exact Quantifier.stopsAfter_cons_iff.mpr (.inr ⟨hundecided, hstops⟩)

/-- Children with one course each are visited in one way. -/
theorem GoesAmong.unique_of {seen unseen : List Tree} {visited others : List Course}
    (hl : seen.length = visited.length) (hstops : q.StopsAfter (Course.heldEach visited) unseen)
    (heach : ∀ t course, (t, course) ∈ seen.zip visited →
      ∀ other, Goes store isEmpty record t other → course = other)
    (h : GoesAmong store isEmpty record q (seen ++ unseen) others) : visited = others := by
  induction visited generalizing seen others with
  | nil =>
    obtain rfl := List.length_eq_zero_iff.mp hl
    obtain rfl := Quantifier.stopsAfter_nil_iff.mp hstops
    exact (goesAmong_nil_iff.mp h).symm
  | cons course visited ih =>
    cases seen with
    | nil => cases hl
    | cons t seen =>
      obtain ⟨other, rest, rfl, hgoes, hrest⟩ := goesAmong_cons_iff.mp h
      obtain ⟨hfirst, heach⟩ := forall_mem_zip_cons_iff.mp heach
      obtain rfl : course = other := hfirst other hgoes
      have hstops := Quantifier.stopsAfter_cons_iff.mp hstops
      -- Both sides go on, or neither does, since the first child came to the same.
      cases hd : q.decidedBy course.held with
      | true =>
        obtain rfl : rest = [] := by simpa [hd] using hrest
        have hnone : visited = [] := by simpa [hd, Course.heldEach_eq_map] using hstops
        rw [hnone]
      | false =>
        have hstops : q.StopsAfter (Course.heldEach visited) unseen := by simpa [hd] using hstops
        have hrest : GoesAmong store isEmpty record q (seen ++ unseen) rest := by
          simpa [hd] using hrest
        rw [ih (Nat.succ.inj hl) hstops heach hrest]

theorem Goes.unique {t : Tree} {course other : Course} (h : Goes store isEmpty record t course)
    (h' : Goes store isEmpty record t other) : course = other := by
  induction h generalizing other with
  | constraint c =>
    cases h'
    rfl
  | reference hs hc _ ih =>
    cases h' with
    | reference hs' hc' hgoes =>
      obtain rfl := Option.some.inj (hs.symm.trans hs')
      obtain rfl := Except.ok.inj (hc.symm.trans hc')
      exact ih hgoes
  | condition hts hl _ hstops ih =>
    obtain ⟨others, rfl, hamong⟩ := goes_condition_iff.mp h'
    subst hts
    rw [GoesAmong.unique_of hl hstops (fun t course hm _ => ih t course hm) hamong]

theorem GoesAmong.unique {visited others : List Course}
    (h : GoesAmong store isEmpty record q ts visited)
    (h' : GoesAmong store isEmpty record q ts others) : visited = others := by
  obtain ⟨seen, unseen, rfl, hl, hgoes, hstops⟩ := h
  exact unique_of hl hstops (fun t course hm _ => (hgoes t course hm).unique) h'

end Goes

/-! ## What is told of a course -/

def Event.remark? : Event → Option (String × Remark)
  | .step _ => none
  | .opened place q children => some (place.text, .opened q children)
  | .closed place q held => some (place.text, .closed q held)
  | .tested place c held => some (place.text, .tested c held)
  | .settled root verdict => some ((Place.mk root []).text, .settled verdict)

/-- A trace is read off the remarks, and so are the constraints that held. -/
theorem Event.filterMap_line? (log : List Event) :
    log.filterMap line? = (log.filterMap remark?).map fun (path, remark) => remark.line path := by
  rw [List.map_filterMap]
  refine List.filterMap_congr fun event _ => ?_
  cases event <;> rfl

theorem Event.filterMap_matched? (log : List Event) :
    log.filterMap (matched? true) =
      (log.filterMap remark?).filterMap fun (path, remark) => remark.matched? path := by
  rw [List.filterMap_filterMap]
  refine List.filterMap_congr fun event _ => ?_
  cases event with
  | tested place c held => cases held <;> rfl
  | _ => rfl

theorem Course.pathBelow_text (place : Place) (q : Quantifier) (index : Nat) :
    pathBelow place.text q index = (place.child q index).text :=
  Recording.childPath_eq true place q index

namespace Evaluation

section Tree

variable (store : Store) (isEmpty : Emptiness) (record : Json)

/-- Where a walk over a tree succeeds, it went along the course of the tree: it comes to what the course
comes to, and its log tells the course. -/
def Charts (t : Tree) (place : Place) (x : Walk Outcome) : Prop :=
  ∀ cache outcome, (x cache).1.outcome = .ok outcome →
    ∃ course, Goes store isEmpty record t course ∧ course.held = outcome.held ∧
      (x cache).1.log.filterMap Event.remark? = course.remarks place.text

variable {store isEmpty record} {limit : Nat} {chain : List String} {follow : Follow} {depth : Nat}

theorem children_charts {ts : List Tree}
    (htree : ∀ t ∈ ts, ∀ place, Charts store isEmpty record t place
      (tree isEmpty record limit chain follow (depth + 1) place t))
    {place : Place} {q : Quantifier} {index : Nat} {cache : PatternCache} {held : Bool}
    (h : (children isEmpty record limit chain follow depth place q index ts cache).1.outcome =
      .ok held) :
    ∃ visited, GoesAmong store isEmpty record q ts visited ∧
      q.join (Course.heldEach visited) = held ∧
      (children isEmpty record limit chain follow depth place q index ts cache).1.log.filterMap
        Event.remark? = Course.remarksFrom place.text q index visited := by
  induction ts generalizing index cache with
  | nil =>
    cases h
    exact ⟨[], goesAmong_nil_iff.mpr rfl, q.join_nil, rfl⟩
  | cons t rest ih =>
    rw [children] at h ⊢
    obtain ⟨outcome, ht, hrest⟩ := Walk.exists_of_bind_ok h
    obtain ⟨course, hgoes, hheld, htold⟩ := htree t List.mem_cons_self _ cache outcome ht
    rw [Walk.log_bind_of_ok ht, List.filterMap_append, htold, ← Course.pathBelow_text]
    cases hd : q.decidedBy course.held with
    | true =>
      simp only [← hheld, hd, if_true] at hrest ⊢
      cases hrest
      have hamong : GoesAmong store isEmpty record q (t :: rest) [course] :=
        goesAmong_cons_iff.mpr ⟨course, [], rfl, hgoes, .inl ⟨hd, rfl⟩⟩
      refine ⟨[course], hamong, ?_, by simp [Course.remarksFrom]⟩
      rw [Course.heldEach, Quantifier.join_cons, hd, if_pos rfl]
    | false =>
      simp only [← hheld, hd] at hrest ⊢
      obtain ⟨visited, hvisited, hjoin, hlog⟩ :=
        ih (fun u hu => htree u (List.mem_cons_of_mem _ hu)) hrest
      have hamong : GoesAmong store isEmpty record q (t :: rest) (course :: visited) :=
        goesAmong_cons_iff.mpr ⟨course, visited, rfl, hgoes, .inr ⟨hd, hvisited⟩⟩
      refine ⟨course :: visited, hamong, ?_, ?_⟩
      · rw [Course.heldEach, Quantifier.join_cons, hd]
        exact hjoin
      · rw [Course.remarksFrom]
        exact congrArg _ hlog

theorem filterMap_remark?_steps (steps : List Step) :
    (steps.map Event.step).filterMap Event.remark? = [] := by
  simp [List.filterMap_map, Function.comp_def, Event.remark?]

theorem tree_charts (hfollow : ∀ id depth place,
      Charts store isEmpty record (.reference id) place (follow id depth place))
    (t : Tree) (depth : Nat) (place : Place) :
    Charts store isEmpty record t place (tree isEmpty record limit chain follow depth place t) := by
  induction t using Tree.induction generalizing depth place with
  | reference id =>
    rw [tree]
    exact hfollow id depth place
  | constraint c =>
    intro cache outcome h
    rw [tree] at h ⊢
    have hcheck := c.check_fst isEmpty record cache
    cases h
    exact ⟨_, .constraint c, hcheck.symm, by rw [← hcheck]; rfl⟩
  | condition q ts result ih =>
    intro cache outcome h
    rw [tree] at h ⊢
    -- The log is that of four parts; the first of them, coming to the condition, tells nothing.
    obtain ⟨_, hreach, h⟩ := Walk.exists_of_bind_ok h
    rw [Walk.log_bind_of_ok hreach]
    obtain ⟨_, hopened, h⟩ := Walk.exists_of_bind_ok h
    rw [Walk.log_bind_of_ok hopened]
    obtain ⟨held, hchildren, h⟩ := Walk.exists_of_bind_ok h
    rw [Walk.log_bind_of_ok hchildren]
    obtain ⟨visited, hvisited, hjoin, hlog⟩ :=
      children_charts (fun t ht => ih t ht (depth + 1)) hchildren
    cases h
    refine ⟨_, goes_condition_iff.mpr ⟨visited, rfl, hvisited⟩, ?_, ?_⟩
    · rw [Course.held, hjoin]
    · have hsteps : (Walk.ofSteps (Expansion.reach limit chain depth) cache).1.log.filterMap
          Event.remark? = [] := filterMap_remark?_steps _
      rw [Course.remarks, hjoin, ← hlog, List.filterMap_append, hsteps, List.filterMap_append,
        List.filterMap_append]
      rfl

end Tree

section Rule

variable {store : Store} {isEmpty : Emptiness} {record : Json} {limit : Nat}

theorem follow_charts (chain : List String) (id : String) (depth : Nat) (place : Place) :
    Charts store isEmpty record (.reference id) place
      (follow store isEmpty record limit chain id depth place) := by
  induction chain using Expansion.chain_induction limit generalizing id depth place with
  | step chain ih =>
  intro cache outcome h
  rw [follow_eq] at h ⊢
  cases he : Expansion.enter limit chain id with
  | error e =>
    rw [he] at h
    cases h
  | ok inner =>
    simp only [he, visit] at h ⊢
    obtain ⟨stored, hfetch, h⟩ := Walk.exists_of_bind_ok h
    rw [Walk.log_bind_of_ok hfetch]
    have hs : store.get? id = some stored := Store.get?_of_fetch hfetch
    cases hc : Condition.ofJson stored.conditions with
    | error m =>
      rw [hc] at h
      cases h
    | ok c =>
      simp only [hc] at h ⊢
      obtain ⟨course, hgoes, hheld, htold⟩ := tree_charts (ih id inner he) c.tree depth place _ _ h
      refine ⟨course, .reference hs hc hgoes, hheld, ?_⟩
      have hsteps : (Walk.ofSteps (store.fetch id) cache).1.log.filterMap Event.remark? = [] :=
        filterMap_remark?_steps _
      rw [List.filterMap_append, hsteps]
      exact htold

theorem root_charts (origin : Option String) (index : Nat) (t : Tree) :
    Charts store isEmpty record t ⟨index, []⟩ (root store isEmpty record limit origin index t) := by
  have htree : Charts store isEmpty record t ⟨index, []⟩ (tree isEmpty record limit
      (Expansion.start origin) (follow store isEmpty record limit (Expansion.start origin)) 0
        ⟨index, []⟩ t) := tree_charts (follow_charts _) t 0 ⟨index, []⟩
  cases t with
  | constraint c =>
    intro cache outcome h
    cases h
  | reference id => exact htree
  | condition q ts result => exact htree

/-- The verdict that is told where a root decides. -/
def verdictOn (found : Option (Nat × Option Json)) : Bool :=
  found.any fun (_, result) => verdictOf result

theorem roots_charts {origin : Option String} {index : Nat} {ts : List Tree} {cache : PatternCache}
    {found : Option (Nat × Option Json)}
    (h : (roots store isEmpty record limit origin index ts cache).1.outcome = .ok found) :
    ∃ courses, GoesAmong store isEmpty record .any ts courses ∧
      found.map Prod.fst = (courses.findIdx? Course.held).map (index + ·) ∧
      (roots store isEmpty record limit origin index ts cache).1.log.filterMap Event.remark? =
        Course.rootsRemarks (verdictOn found) index courses := by
  induction ts generalizing index cache with
  | nil =>
    cases h
    exact ⟨[], goesAmong_nil_iff.mpr rfl, rfl, rfl⟩
  | cons t rest ih =>
    rw [roots] at h ⊢
    obtain ⟨outcome, ht, h⟩ := Walk.exists_of_bind_ok h
    obtain ⟨course, hgoes, hheld, htold⟩ := root_charts origin index t cache outcome ht
    have hpath : (Place.mk index []).text = "conditions[" ++ toString index ++ "]" :=
      (Recording.rootPath_eq true index).symm
    rw [hpath] at htold
    rw [Walk.log_bind_of_ok ht, List.filterMap_append, htold]
    cases hd : course.held with
    | true =>
      simp only [← hheld, hd, if_true] at h ⊢
      cases h
      have hamong : GoesAmong store isEmpty record .any (t :: rest) [course] :=
        goesAmong_cons_iff.mpr ⟨course, [], rfl, hgoes, .inl ⟨hd, rfl⟩⟩
      refine ⟨[course], hamong, by simp [List.findIdx?_cons, hd], ?_⟩
      simp [Course.rootsRemarks, Course.rootRemarks, hd, verdictOn, Walk.bind_fst, Logged.after,
        Event.remark?, hpath]
    | false =>
      simp only [← hheld, hd] at h ⊢
      obtain ⟨courses, hcourses, hindex, hlog⟩ := ih h
      have hamong : GoesAmong store isEmpty record .any (t :: rest) (course :: courses) :=
        goesAmong_cons_iff.mpr ⟨course, courses, rfl, hgoes, .inr ⟨hd, hcourses⟩⟩
      refine ⟨course :: courses, hamong, ?_, ?_⟩
      · rw [hindex, List.findIdx?_cons, hd]
        cases courses.findIdx? Course.held <;> simp [Nat.add_assoc, Nat.add_comm 1]
      · rw [Course.rootsRemarks] at hlog ⊢
        rw [List.zipIdx_cons, List.flatMap_cons, ← hlog]
        simp [Course.rootRemarks, hd]

end Rule

end Evaluation

namespace Store

variable (store : Store) (limit : Nat) (isEmpty : Emptiness)

/-- **A trace is the log of a short-circuit walk.** Take a report with a trace. The roots up to the first
that holds have courses, and no others. The trace consists of the lines of the remarks on these courses, and
the constraints that are told to hold are those of them that did, in the same order. -/
theorem trace_of_courses {rule : Rule} {record : Json} {cache : PatternCache} {report : Report}
    (h : (store.evaluate limit isEmpty true rule record cache).1.outcome = .ok report) :
    ∃ ts courses, rule.trees = .ok ts ∧ GoesAmong store isEmpty record .any ts courses ∧
      (∀ others, GoesAmong store isEmpty record .any ts others → others = courses) ∧
      report.matchedRoot = courses.findIdx? Course.held ∧
      let remarks := Course.rootsRemarks report.verdict 0 courses
      report.trace = remarks.map (fun (path, remark) => remark.line path) ∧
        report.matchedConstraints =
          remarks.filterMap fun (path, remark) => remark.matched? path := by
  obtain ⟨ts, found, hts, ho, rfl⟩ := exists_of_report h
  obtain ⟨courses, hcourses, hindex, hlog⟩ := Evaluation.roots_charts ho
  refine ⟨ts, courses, hts, hcourses, fun others h => h.unique hcourses, ?_, ?_, ?_⟩
  · simpa [Report.ofLog] using hindex
  · exact (Event.filterMap_line? _).trans (congrArg _ hlog)
  · exact (Event.filterMap_matched? _).trans (congrArg _ hlog)

/-- A rule that refers to a missing rule in three places, each behind a child that decides. -/
def circuitRule : Rule :=
  ⟨"r", "", .array [.object [("none", .array [.string "adult", .string "missing"])],
    .object [("any", .array [
      .object [("all", .array [.object [("none", .array [agePresent])], .string "missing"])],
      .string "adult", .string "missing"])]], none⟩

/-- Two roots are tried, and the constraint on the age is tested three times, twice in `adult`. -/
theorem circuitRule_trace :
    ∃ report ts courses,
      (sampleStore.evaluate 64 .standard true circuitRule agedRecord (.empty 0)).1.outcome =
        .ok report ∧
      report.trace =
        ["conditions[0]: evaluating none (2 children)",
          "conditions[0].none[0]: evaluating all (1 children)",
          "conditions[0].none[0].all[0]: age exists null => MATCHED",
          "conditions[0].none[0]: all => MATCHED",
          "conditions[0]: none => NOT_MATCHED",
          "conditions[1]: evaluating any (3 children)",
          "conditions[1].any[0]: evaluating all (2 children)",
          "conditions[1].any[0].all[0]: evaluating none (1 children)",
          "conditions[1].any[0].all[0].none[0]: age exists null => MATCHED",
          "conditions[1].any[0].all[0]: none => NOT_MATCHED",
          "conditions[1].any[0]: all => NOT_MATCHED",
          "conditions[1].any[1]: evaluating all (1 children)",
          "conditions[1].any[1].all[0]: age exists null => MATCHED",
          "conditions[1].any[1]: all => MATCHED",
          "conditions[1]: any => MATCHED",
          "conditions[1]: matched, verdict true"] ∧
      report.matchedConstraints =
        ["conditions[0].none[0].all[0]: age exists null",
          "conditions[1].any[0].all[0].none[0]: age exists null",
          "conditions[1].any[1].all[0]: age exists null"] ∧
      circuitRule.trees = .ok ts ∧ GoesAmong sampleStore .standard agedRecord .any ts courses ∧
      courses.findIdx? Course.held = some 1 ∧
      let remarks := Course.rootsRemarks true 0 courses
      report.trace = remarks.map (fun (path, remark) => remark.line path) ∧
        report.matchedConstraints =
          remarks.filterMap fun (path, remark) => remark.matched? path := by
  have hrun : ∃ report, (sampleStore.evaluate 64 .standard true circuitRule agedRecord
      (.empty 0)).1.outcome = .ok report ∧ report.matchedRoot = some 1 ∧ report.verdict = true :=
    ⟨_, rfl, rfl, rfl⟩
  obtain ⟨report, h, hroot, hverdict⟩ := hrun
  obtain ⟨ts, courses, hts, hcourses, _, hindex, hlines⟩ :=
    trace_of_courses sampleStore 64 .standard h
  rw [hverdict] at hlines
  refine ⟨report, ts, courses, h, ?_, ?_, hts, hcourses, hindex.symm.trans hroot, hlines⟩
  · cases h
    rfl
  · cases h
    rfl

end Store

end RuleTree
