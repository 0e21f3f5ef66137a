import RuleTree.Pattern.Parser

/-!
Patterns that have been read before. A full cache is emptied before a new pattern goes in, and a
cache of capacity zero keeps nothing. Whatever is kept, compiling through a cache gives what
compiling without one gives (`compile_fst`).
-/

namespace RuleTree

/-- Patterns under the texts they were read from. -/
structure PatternCache where
  capacity : Nat
  entries : List (String × Pattern)
  compiled : ∀ entry ∈ entries, Pattern.compile entry.1 = some entry.2

namespace PatternCache

def empty (capacity : Nat) : PatternCache := ⟨capacity, [], by simp⟩

def defaultCapacity : Nat := 256

def size (cache : PatternCache) : Nat := cache.entries.length

def find? (cache : PatternCache) (text : String) : Option Pattern :=
  cache.entries.lookup text

def insert (cache : PatternCache) (text : String) (pattern : Pattern)
    (h : Pattern.compile text = some pattern) : PatternCache :=
  if cache.capacity = 0 then cache
  else if cache.capacity ≤ cache.size then
    { cache with entries := [(text, pattern)], compiled := by simpa using h }
  else
    { cache with
      entries := (text, pattern) :: cache.entries
      compiled := by
        intro entry he
        rcases List.mem_cons.mp he with rfl | he
        · exact h
        · exact cache.compiled entry he }

/-- The pattern with the given text, from the cache if it is kept there. -/
def compile (cache : PatternCache) (text : String) : Option Pattern × PatternCache :=
  match cache.find? text with
  | some pattern => (some pattern, cache)
  | none =>
    match h : Pattern.compile text with
    | some pattern => (some pattern, cache.insert text pattern h)
    | none => (none, cache)

theorem compile_of_find? {cache : PatternCache} {text : String} {pattern : Pattern}
    (h : cache.find? text = some pattern) : Pattern.compile text = some pattern := by
  obtain ⟨before, after, he, _⟩ := List.lookup_eq_some_iff.mp h
  exact cache.compiled (text, pattern) (by simp [he])

/-- A cache gives the pattern that compiling the text anew would give. -/
@[simp] theorem compile_fst (cache : PatternCache) (text : String) :
    (cache.compile text).1 = Pattern.compile text := by
  unfold compile
  split
  · exact (compile_of_find? ‹_›).symm
  · split <;> simp [*]

end PatternCache

end RuleTree
