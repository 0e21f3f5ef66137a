import RuleTree.Failure
import RuleTree.Rule.Codec

/-!
The store of rules by id. Only rules with an id are stored, a rule replaces the one with its id, and
what fails leaves the store as it was.
-/

namespace RuleTree

mutual

/-- The ids that stand as references in a tree, from left to right. -/
def Tree.references : Tree → List String
  | .reference id => [id]
  | .constraint _ => []
  | .condition _ children _ => Tree.referencesOf children

def Tree.referencesOf : List Tree → List String
  | [] => []
  | t :: rest => t.references ++ Tree.referencesOf rest

end

/-- The ids that a rule refers to. A root that cannot be read as a tree refers to nothing. -/
def Rule.references (rule : Rule) : List String :=
  rule.roots.flatMap fun root =>
    match Tree.ofJson root with
    | .ok t => t.references
    | .error _ => []

structure Store where
  entries : List (String × Rule)

namespace Store

def empty : Store := ⟨[]⟩

def get? (store : Store) (id : String) : Option Rule :=
  Entries.get? id store.entries

def contains (store : Store) (id : String) : Bool :=
  (store.get? id).isSome

def size (store : Store) : Nat :=
  store.entries.length

def isEmpty (store : Store) : Bool :=
  store.entries.isEmpty

/-- The ids of the stored rules in ascending order. -/
def ids (store : Store) : List String :=
  store.entries.map Prod.fst

/-- Stores a rule, which is then as new as the given moment. -/
def load (store : Store) (now : Time) (rule : Rule) : Except Failure Store :=
  if rule.id = "" then .error (.invalidRule "" "stored rules must have an id" rule.conditions)
  else .ok ⟨Entries.insert rule.id { rule with updatedAt := some now } store.entries⟩

/-- Stores the rule that a text holds and tells its id. -/
def loadText (store : Store) (now : Time) (text : String) : Except Failure (String × Store) :=
  match Rule.ofText text with
  | .error e => .error (.badJson e)
  | .ok rule => (rule.id, ·) <$> store.load now rule

/-- Stores those of the given rules that can be stored and tells their ids. -/
def loadBatch (store : Store) (now : Time) : List Rule → List String × Store
  | [] => ([], store)
  | rule :: rest =>
    match store.load now rule with
    | .ok store =>
      let (ids, store) := store.loadBatch now rest
      (rule.id :: ids, store)
    | .error _ => store.loadBatch now rest

/-- Stores a rule in the place of the one with its id. -/
def update (store : Store) (now : Time) (rule : Rule) : Except Failure Store :=
  if store.contains rule.id then store.load now rule else .error (.notFound rule.id)

def delete (store : Store) (id : String) : Except Failure Store :=
  if store.contains id then .ok ⟨Entries.erase id store.entries⟩ else .error (.notFound id)

def referenceCount (store : Store) : Nat :=
  (store.entries.flatMap fun (_, rule) => rule.references).length

@[simp] theorem get?_empty (id : String) : empty.get? id = none := rfl

/-- A stored rule is found under its id, with its conditions and label. -/
theorem get?_of_load {store store' : Store} {now : Time} {rule : Rule}
    (h : store.load now rule = .ok store') (id : String) :
    store'.get? id = if id = rule.id then some { rule with updatedAt := some now }
      else store.get? id := by
  unfold load at h
  split at h
  · cases h
  · cases h
    split
    · subst id; simp [get?]
    · exact Entries.get?_insert_of_ne (Ne.symm ‹_›) _ _

end Store

end RuleTree
