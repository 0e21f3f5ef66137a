import Mathlib.Data.List.Induction
import RuleTree.Proofs.Explanations

/-!
The two ways of reading a rule from a text. One goes through the text member by member and keeps what a
rule consists of; the other makes a value of the whole text first and looks the members up in it. If the
text holds an object and does not repeat a key of a rule, both come to the same rule or both fail
(`Rule.text_and_value_agree`).
-/

namespace RuleTree

theorem toOption_bind {ε α β : Type} (x : Except ε α) (f : α → Except ε β) :
    (x >>= f).toOption = x.toOption.bind fun a => (f a).toOption := by
  cases x <;> rfl

theorem toOption_eq_some_iff {ε α : Type} (x : Except ε α) (a : α) :
    x.toOption = some a ↔ x = .ok a := by
  cases x <;> simp [Except.toOption]

theorem toOption_mapM {ε α β : Type} (f : α → Except ε β) (x : Option α) :
    (x.mapM f).toOption = x.mapM fun a => (f a).toOption := by
  cases x with
  | none => rfl
  | some a => cases h : f a <;> simp [h, Except.toOption]

/-! ## Members in the order of a text -/

namespace Entries

variable {α : Type}

theorem ofList_append (entries : List (String × α)) (key : String) (value : α) :
    ofList (entries ++ [(key, value)]) = insert key value (ofList entries) := by
  simp [ofList]

/-- An entry whose key is not repeated is found where it stands. -/
theorem get?_ofList {key : String} {entries : List (String × α)}
    (h : (entries.map Prod.fst).count key ≤ 1) : get? key (ofList entries) = get? key entries := by
  induction entries using List.reverseRecOn with
  | nil => rfl
  | append_singleton before e ih =>
    obtain ⟨k, v⟩ := e
    rw [List.map_append, List.count_append] at h
    rw [ofList_append, get?_append]
    by_cases hk : k = key
    · -- The last entry replaces what was there before, but there was nothing.
      subst hk
      have hbefore : k ∉ before.map Prod.fst := by
        rw [List.map_singleton, List.count_singleton_self] at h
        exact List.count_eq_zero.mp (by omega)
      simp [get?_eq_none hbefore]
    · rw [get?_insert_of_ne hk, ih (by omega)]
      simp [hk]

end Entries

namespace Rule

/-- The keys of the members that a rule consists of. -/
def fieldNames : List String := ["id", "label", "conditions", "updated_at"]

end Rule

namespace Json

/-! ## Values that can be passed over -/

theorem Quoted.fault_eq_none_of_textOf {fault : Option Fault} {pieces : List Piece} {cs : List Char}
    (h : Quoted.textOf fault pieces = .ok cs) : fault = none := by
  fun_induction Quoted.textOf fault pieces generalizing cs with
  | case1 hfault => exact hfault
  | case3 c rest ih =>
    obtain ⟨after, hrest, _⟩ := (map_eq_ok_iff _ _ _).mp h
    exact ih hrest
  | case5 n m hlead rest hhigh hlow ih =>
    obtain ⟨after, hrest, _⟩ := (map_eq_ok_iff _ _ _).mp h
    exact ih hrest
  | case9 n rest hlow hhigh ih =>
    obtain ⟨after, hrest, _⟩ := (map_eq_ok_iff _ _ _).mp h
    exact ih hrest
  | case2 | case4 | case6 | case7 | case8 => cases h

theorem Quoted.skip_of_text {q : Quoted} {s : String} (h : q.text = .ok s) : q.skip = .ok () := by
  obtain ⟨cs, hcs, _⟩ := (map_eq_ok_iff _ _ _).mp h
  rw [skip, fault_eq_none_of_textOf hcs]

namespace Outline

theorem close_eq_ok_iff (fault : Option Fault) : close fault = .ok () ↔ fault = none := by
  cases fault <;> simp [close]

theorem exists_of_value_array {items : List Outline} {fault : Option Fault} {room : Nat} {v : Json}
    (h : (Outline.array items fault).value room = .ok v) :
    fault = none ∧ ∃ inner values, room = inner + 1 ∧ valuesOf inner items = .ok values ∧
      v = .array values := by
  cases room with
  | zero => rw [value] at h; cases h
  | succ inner =>
    rw [value] at h
    obtain ⟨values, hvalues, h⟩ := (bind_eq_ok_iff _ _ _).mp h
    obtain ⟨_, hclose, h⟩ := (bind_eq_ok_iff _ _ _).mp h
    cases h
    exact ⟨(close_eq_ok_iff fault).mp hclose, inner, values, rfl, hvalues, rfl⟩

theorem exists_of_value_object {members : List (Quoted × Outline)} {fault : Option Fault} {room : Nat}
    {v : Json} (h : (Outline.object members fault).value room = .ok v) :
    fault = none ∧ ∃ inner entries, room = inner + 1 ∧ membersOf inner members = .ok entries ∧
      v = .ofMembers entries := by
  cases room with
  | zero => rw [value] at h; cases h
  | succ inner =>
    rw [value] at h
    obtain ⟨entries, hentries, h⟩ := (bind_eq_ok_iff _ _ _).mp h
    obtain ⟨_, hclose, h⟩ := (bind_eq_ok_iff _ _ _).mp h
    cases h
    exact ⟨(close_eq_ok_iff fault).mp hclose, inner, entries, rfl, hentries, rfl⟩

theorem exists_of_membersOf_cons {quoted : Quoted} {outline : Outline} {rest : List (Quoted × Outline)}
    {room : Nat} {entries : List (String × Json)}
    (h : membersOf room ((quoted, outline) :: rest) = .ok entries) :
    ∃ key v more, quoted.text = .ok key ∧ outline.value room = .ok v ∧
      membersOf room rest = .ok more ∧ entries = (key, v) :: more := by
  rw [membersOf] at h
  obtain ⟨key, hkey, h⟩ := (bind_eq_ok_iff _ _ _).mp h
  obtain ⟨v, hv, h⟩ := (bind_eq_ok_iff _ _ _).mp h
  obtain ⟨more, hmore, h⟩ := (bind_eq_ok_iff _ _ _).mp h
  cases h
  exact ⟨key, v, more, hkey, hv, hmore, rfl⟩

mutual

/-- A value that can be read can be passed over. -/
theorem skip_of_value : ∀ (outline : Outline) {room : Nat} {v : Json},
    outline.value room = .ok v → outline.skip = .ok ()
  | .null, _, _, _ => by simp [skip]
  | .bool _, _, _, _ => by simp [skip]
  | .number _, _, _, _ => by simp [skip]
  | .string q, _, _, h => by
    rw [value] at h
    obtain ⟨s, hs, _⟩ := (map_eq_ok_iff _ _ _).mp h
    rw [skip, Quoted.skip_of_text hs]
  | .array items _, _, _, h => by
    obtain ⟨rfl, _, _, _, hvalues, _⟩ := exists_of_value_array h
    rw [skip, skipItems_of_valuesOf items hvalues]
    rfl
  | .object members _, _, _, h => by
    obtain ⟨rfl, _, _, _, hentries, _⟩ := exists_of_value_object h
    rw [skip, skipMembers_of_membersOf members hentries]
    rfl
  | .broken _, _, _, h => by
    rw [value] at h
    cases h

theorem skipItems_of_valuesOf : ∀ (items : List Outline) {room : Nat} {values : List Json},
    valuesOf room items = .ok values → skipItems items = .ok ()
  | [], _, _, _ => by rw [skipItems]
  | x :: rest, _, _, h => by
    rw [valuesOf] at h
    obtain ⟨v, hv, h⟩ := (bind_eq_ok_iff _ _ _).mp h
    obtain ⟨values, hvalues, _⟩ := (bind_eq_ok_iff _ _ _).mp h
    rw [skipItems, skip_of_value x hv]
    exact skipItems_of_valuesOf rest hvalues

theorem skipMembers_of_membersOf : ∀ (members : List (Quoted × Outline)) {room : Nat}
    {entries : List (String × Json)},
    membersOf room members = .ok entries → skipMembers members = .ok ()
  | [], _, _, _ => by rw [skipMembers]
  | (k, x) :: rest, _, _, h => by
    obtain ⟨key, v, more, hkey, hv, hmore, _⟩ := exists_of_membersOf_cons h
    rw [skipMembers, Quoted.skip_of_text hkey, skip_of_value x hv]
    exact skipMembers_of_membersOf rest hmore

end

/-! ## Members that are read -/

/-- The value that an outline stands for is of the kind that the outline tells. -/
inductive Reads : Outline → Json → Prop
  | null : Reads .null .null
  | bool {b} : Reads (.bool b) (.bool b)
  | number {n number} : Reads (.number n) (.number number)
  | string {q s} (h : q.text = .ok s) : Reads (.string q) (.string s)
  | array {items fault values} : Reads (.array items fault) (.array values)
  | object {members fault entries} : Reads (.object members fault) (.object entries)

theorem reads_of_value {outline : Outline} {room : Nat} {v : Json} (h : outline.value room = .ok v) :
    Reads outline v := by
  cases outline with
  | null => rw [value] at h; cases h; exact .null
  | bool b => rw [value] at h; cases h; exact .bool
  | number n =>
    rw [value] at h
    obtain ⟨number, _, rfl⟩ := (map_eq_ok_iff _ _ _).mp h
    exact .number
  | string q =>
    rw [value] at h
    obtain ⟨s, hs, rfl⟩ := (map_eq_ok_iff _ _ _).mp h
    exact .string hs
  | array items fault =>
    obtain ⟨_, _, _, _, _, rfl⟩ := exists_of_value_array h
    exact .array
  | object members fault =>
    obtain ⟨_, _, _, _, _, rfl⟩ := exists_of_value_object h
    exact .object
  | broken fault => rw [value] at h; cases h

theorem toOption_mismatch {α : Type} (outline : Outline) (expected : Expected) :
    (outline.mismatch expected : Except ReadError α).toOption = none := by
  rw [mismatch, toOption_bind]
  cases faulty outline.found <;> rfl

theorem Reads.text {outline : Outline} {v : Json} (h : outline.Reads v) :
    outline.text.toOption = v.text.toOption := by
  cases h with
  | string hs => simp only [Outline.text, hs]; rfl
  | _ => exact toOption_mismatch _ _

theorem Reads.time? {outline : Outline} {v : Json} (h : outline.Reads v) :
    outline.time?.toOption = (Time.ofJson? v).toOption := by
  cases h with
  | null => rfl
  | @string q s hs =>
    simp only [Outline.time?, hs, faulty, bind, Except.bind, Time.ofJson?]
    cases Time.ofText s <;> rfl
  | _ => exact toOption_mismatch _ _

namespace Fields

/-- The fields with one member more, read from a value. -/
def put (fields : Fields) (key : String) (v : Json) : Option Fields :=
  match key with
  | "id" => v.text.toOption.map fun s => { fields with id := some s }
  | "label" => v.text.toOption.map fun s => { fields with label := some s }
  | "conditions" => some { fields with conditions := some v }
  | "updated_at" => (Time.ofJson? v).toOption.map fun t => { fields with updatedAt := some t }
  | _ => some fields

def has (fields : Fields) (key : String) : Bool :=
  match key with
  | "id" => fields.id.isSome
  | "label" => fields.label.isSome
  | "conditions" => fields.conditions.isSome
  | "updated_at" => fields.updatedAt.isSome
  | _ => false

/-- Of the members that are read and those that are still to come, none has the same key of a rule. -/
def Fresh (fields : Fields) (keys : List String) : Prop :=
  ∀ key ∈ Rule.fieldNames, (fields.has key).toNat + keys.count key ≤ 1

/-- The fields with those that are found among members. -/
def completed (fields : Fields) (entries : List (String × Json)) : Option Fields := do
  let id ← (Entries.get? "id" entries).mapM fun v => v.text.toOption
  let label ← (Entries.get? "label" entries).mapM fun v => v.text.toOption
  let updatedAt ← (Entries.get? "updated_at" entries).mapM fun v => (Time.ofJson? v).toOption
  return ⟨fields.id.or id, fields.label.or label,
    fields.conditions.or (Entries.get? "conditions" entries), fields.updatedAt.or updatedAt⟩

theorem has_put {fields after : Fields} {key : String} {v : Json} (h : fields.put key v = some after) :
    ∀ other ∈ Rule.fieldNames, after.has other = (fields.has other || key == other) := by
  unfold put at h
  split at h
  · obtain ⟨s, _, rfl⟩ := Option.map_eq_some_iff.mp h
    simp [Rule.fieldNames, has]
  · obtain ⟨s, _, rfl⟩ := Option.map_eq_some_iff.mp h
    simp [Rule.fieldNames, has]
  · cases h
    simp [Rule.fieldNames, has]
  · obtain ⟨s, _, rfl⟩ := Option.map_eq_some_iff.mp h
    simp [Rule.fieldNames, has]
  · cases h
    simp_all [Rule.fieldNames, has]

theorem Fresh.has_eq_false {fields : Fields} {key : String} {keys : List String}
    (h : fields.Fresh (key :: keys)) : fields.has key = false := by
  by_cases hkey : key ∈ Rule.fieldNames
  · have hle := h key hkey
    rw [List.count_cons_self] at hle
    exact Bool.toNat_eq_zero.mp (by omega)
  · unfold has
    split <;> simp_all [Rule.fieldNames]

/-- No further member has the key of the first one, if that is a key of a rule. -/
theorem Fresh.not_mem {fields : Fields} {key : String} {keys : List String}
    (h : fields.Fresh (key :: keys)) (hkey : key ∈ Rule.fieldNames) : key ∉ keys := by
  have hle := h key hkey
  rw [List.count_cons_self] at hle
  exact List.count_eq_zero.mp (by omega)

theorem Fresh.put {fields after : Fields} {key : String} {keys : List String} {v : Json}
    (h : fields.Fresh (key :: keys)) (hp : fields.put key v = some after) : after.Fresh keys := by
  intro other hother
  by_cases hk : key = other
  · subst hk
    rw [List.count_eq_zero.mpr (h.not_mem hother)]
    exact Bool.toNat_le _
  · have hle := h other hother
    rw [List.count_cons_of_ne hk] at hle
    rwa [has_put hp other hother, beq_eq_false_iff_ne.mpr hk, Bool.or_false]

theorem completed_cons {fields : Fields} {key : String} {v : Json} {rest : List (String × Json)}
    (h : fields.Fresh (key :: rest.map Prod.fst)) :
    (fields.put key v).bind (fun after => after.completed rest) = fields.completed ((key, v) :: rest) := by
  have hfirst := h.has_eq_false
  have hrest (hkey : key ∈ Rule.fieldNames) : Entries.get? key rest = none :=
    Entries.get?_eq_none (h.not_mem hkey)
  unfold put
  split
  · have hbefore : fields.id = none := by simpa [has] using hfirst
    cases hv : v.text.toOption <;> simp [completed, hbefore, hrest (by decide), hv]
  · have hbefore : fields.label = none := by simpa [has] using hfirst
    cases hv : v.text.toOption <;> simp [completed, hbefore, hrest (by decide), hv]
  · have hbefore : fields.conditions = none := by simpa [has] using hfirst
    simp [completed, hbefore, hrest (by decide)]
  · have hbefore : fields.updatedAt = none := by simpa [has] using hfirst
    cases hv : (Time.ofJson? v).toOption <;> simp [completed, hbefore, hrest (by decide), hv]
  · simp_all [completed]

theorem toOption_field {fields : Fields} {key : String} {outline : Outline} {room : Nat} {v : Json}
    (hf : fields.has key = false) (h : outline.value room = .ok v) :
    (field room fields key outline).toOption = fields.put key v := by
  have hr := reads_of_value h
  unfold field
  split
  · have hfresh : fields.id.isNone = true := by simpa [has] using hf
    simp only [hfresh, if_true]
    rw [put, ← hr.text]
    cases outline.text <;> rfl
  · have hfresh : fields.label.isNone = true := by simpa [has] using hf
    simp only [hfresh, if_true]
    rw [put, ← hr.text]
    cases outline.text <;> rfl
  · have hfresh : fields.conditions.isNone = true := by simpa [has] using hf
    simp only [hfresh, if_true]
    rw [h]
    rfl
  · have hfresh : fields.updatedAt.isNone = true := by simpa [has] using hf
    simp only [hfresh, if_true]
    rw [put, ← hr.time?]
    cases outline.time? <;> rfl
  · -- The key is none of a rule.
    have hput : fields.put key v = some fields := by
      unfold put
      split <;> simp_all
    rw [skip_of_value outline h, hput]
    rfl

end Fields

/-- The members are read one by one to what is found among them all. -/
theorem toOption_fieldsOf {room : Nat} (members : List (Quoted × Outline)) {fields : Fields}
    {entries : List (String × Json)} (h : membersOf room members = .ok entries)
    (hf : fields.Fresh (entries.map Prod.fst)) :
    (fieldsOf room fields members).toOption = fields.completed entries := by
  -- What has been read and what is still to come share no key, so no member is refused as repeated.
  induction members generalizing fields entries with
  | nil =>
    rw [membersOf] at h
    cases h
    simp [fieldsOf, Fields.completed, Except.toOption]
  | cons member rest ih =>
    obtain ⟨quoted, outline⟩ := member
    obtain ⟨key, v, more, hkey, hv, hmore, rfl⟩ := exists_of_membersOf_cons h
    have hfield := Fields.toOption_field (Fields.Fresh.has_eq_false hf) hv
    rw [← Fields.completed_cons hf, ← hfield, fieldsOf, hkey]
    show (field room fields key outline >>= fun after => fieldsOf room after rest).toOption = _
    rw [toOption_bind]
    cases hafter : field room fields key outline with
    | error e => rfl
    | ok after =>
      rw [hafter] at hfield
      exact ih hmore (hf.put hfield.symm)

/-- The keys of an object in the order in which they are written, repeated ones included. -/
def keys : Outline → List String
  | .object members _ => members.filterMap fun member => member.1.text.toOption
  | _ => []

theorem keys_of_membersOf {room : Nat} {members : List (Quoted × Outline)} {fault : Option Fault}
    {entries : List (String × Json)} (h : membersOf room members = .ok entries) :
    (Outline.object members fault).keys = entries.map Prod.fst := by
  rw [keys]
  induction members generalizing entries with
  | nil =>
    rw [membersOf] at h
    cases h
    rfl
  | cons member rest ih =>
    obtain ⟨quoted, outline⟩ := member
    obtain ⟨key, v, more, hkey, _, hmore, rfl⟩ := exists_of_membersOf_cons h
    have hsome : quoted.text.toOption = some key := by rw [hkey]; rfl
    simp only [List.filterMap_cons, hsome, ih hmore, List.map_cons]

end Outline

/-- The keys of the object that a text holds, as they are written. -/
def keysOf (text : String) : List String :=
  (Outline.ofText text).1.keys

theorem exists_of_parse_object {text : String} {members : List (String × Json)}
    (h : Json.parse text = .ok (.object members)) :
    ∃ written entries, Outline.ofText text = (.object written none, false) ∧
      Outline.membersOf (maxNesting - 1) written = .ok entries ∧
      members = Entries.ofList entries := by
  rw [parse, parseWithin] at h
  rcases hof : Outline.ofText text with ⟨outline, trailing⟩
  rw [hof] at h
  obtain ⟨value, hvalue, h⟩ := (bind_eq_ok_iff _ _ _).mp h
  cases trailing with
  | true => cases h
  | false =>
    cases h
    cases Outline.reads_of_value hvalue with
    | @object written fault =>
      obtain ⟨rfl, inner, entries, hroom, hentries, hmembers⟩ := Outline.exists_of_value_object hvalue
      cases hroom
      cases hmembers
      exact ⟨written, entries, rfl, hentries, rfl⟩

end Json

namespace Rule

open Json.Outline

/-- A rule is read from an object by looking its members up. -/
theorem toOption_ofJson_ofMembers {entries : List (String × Json)}
    (h : ∀ key ∈ fieldNames, (entries.map Prod.fst).count key ≤ 1) :
    (ofJson (.ofMembers entries)).toOption = (Fields.completed {} entries).map Fields.rule := by
  have hget (key : String) (hk : key ∈ fieldNames) :
      Entries.get? key (Entries.ofList entries) = Entries.get? key entries :=
    Entries.get?_ofList (h key hk)
  simp only [ofJson, Json.ofMembers, toOption_bind, toOption_mapM, hget "id" (by decide),
    hget "label" (by decide), hget "conditions" (by decide), hget "updated_at" (by decide),
    Fields.completed, Option.bind_eq_bind, Option.map_bind, Function.comp_def, Option.none_or]
  rfl

/-- A rule is read from a text by completing its fields member by member. -/
theorem toOption_ofText {text : String} {written : List (Json.Quoted × Json.Outline)}
    {entries : List (String × Json)} (hof : Json.Outline.ofText text = (.object written none, false))
    (hentries : membersOf (Json.maxNesting - 1) written = .ok entries)
    (h : ∀ key ∈ fieldNames, (entries.map Prod.fst).count key ≤ 1) :
    (ofText text).toOption = (Fields.completed {} entries).map Fields.rule := by
  have hfresh : Fields.Fresh {} (entries.map Prod.fst) := by
    intro key hkey
    have hnone : Fields.has {} key = false := by
      unfold Fields.has
      split <;> rfl
    rw [hnone]
    simpa using h key hkey
  rw [← toOption_fieldsOf written hentries hfresh, ofText, hof]
  simp only [rule]
  cases fieldsOf (Json.maxNesting - 1) {} written <;> rfl

/-- The two ways of reading a rule succeed for the same texts, and with the same rule. -/
theorem ofText_eq_ok_iff {text : String} {members : List (String × Json)}
    (h : Json.parse text = .ok (.object members))
    (honce : ∀ key ∈ fieldNames, (Json.keysOf text).count key ≤ 1) (rule : Rule) :
    ofText text = .ok rule ↔ ofJson (.object members) = .ok rule := by
  obtain ⟨written, entries, hof, hentries, rfl⟩ := Json.exists_of_parse_object h
  have hkeys : Json.keysOf text = entries.map Prod.fst := by
    rw [Json.keysOf, hof]
    exact keys_of_membersOf hentries
  rw [hkeys] at honce
  have hsame : (ofText text).toOption = (ofJson (.ofMembers entries)).toOption := by
    rw [toOption_ofText hof hentries honce, toOption_ofJson_ofMembers honce]
  rw [← toOption_eq_some_iff, hsame, toOption_eq_some_iff, Json.ofMembers]

end Rule

/-! ## Files and stores -/

/-- A store has gained a rule, which is as new as the given moment, and is otherwise as before. -/
structure Store.Gains (store : Store) (rule : Rule) (now : Time) (after : Store) : Prop where
  found : after.get? rule.id = some { rule with updatedAt := some now }
  kept : ∀ id, id ≠ rule.id → after.get? id = store.get? id

theorem Store.exists_gains {rule : Rule} (h : rule.id ≠ "") (store : Store) (now : Time) :
    ∃ after, store.load now rule = .ok after ∧ store.Gains rule now after := by
  have hload : store.load now rule = .ok _ := if_neg h
  refine ⟨_, hload, ?_, fun id hid => ?_⟩
  · rw [get?_of_load hload, if_pos rfl]
  · rw [get?_of_load hload, if_neg hid]

section Files

variable {disk : Disk} {path text : String} {members : List (String × Json)}

/-- A file with an object holds a single rule, which has the name of the file if it has no id. -/
theorem RuleFile.read_of_object (htext : disk.readText path = .ok text)
    (h : Json.parse text = .ok (.object members)) (newId : NewId) (rules : List Rule) :
    read disk newId path = .ok rules ↔ ∃ rule, Rule.ofJson (.object members) = .ok rule ∧
      rules = [named (FileName.stem (fileName path)) rule] := by
  simp only [read, htext, h, rulesIn]
  cases Rule.ofJson (.object members) with
  | error mismatch => simp
  | ok rule => simp [complete, eq_comm]

theorem Command.ruleOf_of_object {store : Store} (hget : store.get? path = none)
    (htext : disk.readText path = .ok text) (h : Json.parse text = .ok (.object members)) (rule : Rule) :
    ruleOf store disk path = .ok rule ↔ ∃ written, Rule.ofJson (.object members) = .ok written ∧
      rule = RuleFile.named (FileName.stem (fileName path)) written := by
  simp only [ruleOf, find, hget, htext, h, bind, Except.bind, Named.rule]
  cases Rule.ofJson (.object members) with
  | error mismatch => simp
  | ok written => simp [eq_comm]

end Files

/-- A file presents the rule that is read from its text, in all the ways that lead to it: among the rules
of a folder, as the rule of a command, and in a store if it has an id. -/
structure RuleFile.Presents (disk : Disk) (path text : String) : Prop where
  loaded : ∀ newId rules, read disk newId path = .ok rules ↔
    ∃ rule, Rule.ofText text = .ok rule ∧ rules = [named (FileName.stem (fileName path)) rule]
  found : ∀ store : Store, store.get? path = none → ∀ rule, Command.ruleOf store disk path = .ok rule ↔
    ∃ written, Rule.ofText text = .ok written ∧ rule = named (FileName.stem (fileName path)) written
  stored : ∀ rule, Rule.ofText text = .ok rule → rule.id ≠ "" → ∀ newId,
    read disk newId path = .ok [rule] ∧
      ∀ (store : Store) now later, ∃ after after', store.loadText now text = .ok (rule.id, after) ∧
        store.Gains rule now after ∧ store.loadBatch later [rule] = ([rule.id], after') ∧
        store.Gains rule later after'

theorem RuleFile.presents_of_object {disk : Disk} {path text : String} {members : List (String × Json)}
    (htext : disk.readText path = .ok text) (h : Json.parse text = .ok (.object members))
    (hsame : ∀ rule, Rule.ofText text = .ok rule ↔ Rule.ofJson (.object members) = .ok rule) :
    Presents disk path text := by
  have hloaded (newId : NewId) (rules : List Rule) := read_of_object htext h newId rules
  simp only [← hsame] at hloaded
  refine ⟨hloaded, fun store hget rule => ?_, fun rule hrule hid newId => ⟨?_, fun store now later => ?_⟩⟩
  · simp only [Command.ruleOf_of_object hget htext h, hsame]
  · exact (hloaded newId [rule]).mpr ⟨rule, hrule, by rw [named, if_neg hid]⟩
  · obtain ⟨after, hload, hgains⟩ := store.exists_gains hid now
    obtain ⟨after', hload', hgains'⟩ := store.exists_gains hid later
    refine ⟨after, after', ?_, hgains, ?_, hgains'⟩
    · rw [Store.loadText, hrule]
      simp only [hload]
      rfl
    · simp only [Store.loadBatch, hload']

/-- **The ways from a text to a rule agree.** If a text holds an object and repeats none of the keys of a
rule, then a rule is read from the text if and only if it is read from the object, whatever else there is
in it, and it is the same rule. It is what a file with this text presents: with its own id, it is stored
from the text as it is stored from the file. -/
theorem Rule.text_and_value_agree {text : String} {members : List (String × Json)}
    (h : Json.parse text = .ok (.object members))
    (honce : ∀ key ∈ fieldNames, (Json.keysOf text).count key ≤ 1) :
    (∀ rule, ofText text = .ok rule ↔ ofJson (.object members) = .ok rule) ∧
      ∀ disk path, disk.readText path = .ok text → RuleFile.Presents disk path text := by
  have hsame := ofText_eq_ok_iff h honce
  exact ⟨hsame, fun disk path htext => RuleFile.presents_of_object htext h hsame⟩

/-- A rule whose id stands with an escape, between two members with a key that means nothing. -/
def Rule.escapedText : String :=
  "\x7b\"note\":\"\",\"id\":\"\\/\",\"note\":[]\x7d"

def Rule.escapedDisk : Disk
  | "slash.json" => .ok (.file (Utf8.bytesOf Rule.escapedText))
  | _ => .error .notFound

/-- It is the same rule in the text and in the file, and is stored from both. -/
theorem Rule.escaped_text_and_value : Json.keysOf escapedText = ["note", "id", "note"] ∧
    ofText escapedText = .ok ⟨"/", "", .null, none⟩ ∧
    RuleFile.read escapedDisk (fun _ _ => "new") "slash.json" = .ok [⟨"/", "", .null, none⟩] ∧
    ∀ (store : Store) now, ∃ after, store.loadText now escapedText = .ok ("/", after) ∧
      after.get? "/" = some ⟨"/", "", .null, some now⟩ := by
  have hparse : Json.parse escapedText =
      .ok (.object [("id", .string "/"), ("note", .array [])]) := by
    rw [escapedText]
    cbv
  have hkeys : Json.keysOf escapedText = ["note", "id", "note"] := by
    rw [escapedText]
    cbv
  obtain ⟨hsame, hfiles⟩ := text_and_value_agree hparse (by rw [hkeys]; decide)
  have hrule : ofText escapedText = .ok ⟨"/", "", .null, none⟩ := (hsame _).mpr rfl
  have hpresents := hfiles escapedDisk "slash.json" (Disk.readText_of_file rfl (by decide +kernel))
  obtain ⟨hread, hstored⟩ := hpresents.stored _ hrule (by decide) fun _ _ => "new"
  refine ⟨hkeys, hrule, hread, fun store now => ?_⟩
  obtain ⟨after, _, hload, hgains, _⟩ := hstored store now now
  exact ⟨after, hload, hgains.found⟩

end RuleTree
