import Mathlib.Data.List.Lex
import RuleTree.Proofs.Changes
import RuleTree.Proofs.Commands

/-!
Loading the rules of a folder. Its files with rules are read one by one, in ascending order of their paths;
what a file holds is told by itself alone, and a file that is spoilt in any place holds nothing
(`RuleFile.contribution_contributed`). Every rule that is read has an id, so a store refuses none of them,
and of the rules with the same id the last one stays (`Command.load_gathers`).
-/

namespace RuleTree

theorem Disk.isFolder_of_names {disk : Disk} {path : String} {names : List String}
    (h : disk.names path = .ok names) : disk.isFolder path = true := by
  unfold Disk.names at h
  unfold isFolder
  split at h
  next hfound => rw [hfound]
  next => cases h
  next => cases h

/-! ## Names and paths -/

namespace FileName

/-- What stands before the last dot is not empty, and what stands after it ends the name. -/
theorem parts?_spec {name front extension : String} (h : parts? name = some (front, extension)) :
    front ≠ "" ∧ ∃ more, name.toList = more ++ extension.toList := by
  unfold parts? at h
  split at h
  next after before more hpieces =>
    dsimp only at h
    split at h
    next => cases h
    next hfront =>
      cases h
      have hsplit : splitAt '.' name.toList = (before :: more).reverse ++ [after] := by
        simpa using congrArg List.reverse hpieces
      obtain ⟨rest, hrest⟩ := exists_append_of_splitAt hsplit
      refine ⟨fun hempty => hfront ?_, rest, by rw [hrest, String.toList_ofList]⟩
      simpa using congrArg String.toList hempty
  next => cases h

theorem stem_ne_empty {name : String} (h : name ≠ "") : stem name ≠ "" := by
  rw [stem]
  cases hparts : parts? name with
  | none => exact h
  | some parts => exact (parts?_spec hparts).1

/-- A name ends in its extension. -/
theorem exists_of_extension? {name extension : String} (h : extension? name = some extension) :
    ∃ front, name.toList = front ++ extension.toList := by
  obtain ⟨parts, hparts, rfl⟩ := Option.map_eq_some_iff.mp h
  exact (parts?_spec hparts).2

end FileName

/-- The last step of a path is not empty where the path ends in something without a slash. -/
theorem fileName_ne_empty {path : String} {front ending : List Char}
    (h : path.toList = front ++ ending) (hne : ending ≠ []) (hslash : '/' ∉ ending) :
    fileName path ≠ "" := by
  obtain ⟨before, last, _, hpieces⟩ := exists_splitAt_append hslash front
  rw [fileName, piecesOf, h, hpieces]
  simp [hne]

theorem exists_joinPath_eq (folder name : String) :
    ∃ front, (joinPath folder name).toList = front ++ name.toList := by
  unfold joinPath
  split
  · exact ⟨[], rfl⟩
  · split
    · exact ⟨folder.toList, by simp⟩
    · exact ⟨folder.toList ++ ['/'], by simp⟩

/-- A file with an extension has a name to give to a rule. -/
theorem stem_joinPath_ne_empty {folder name extension : String}
    (h : FileName.extension? name = some extension) (hne : extension ≠ "")
    (hslash : '/' ∉ extension.toList) :
    FileName.stem (fileName (joinPath folder name)) ≠ "" := by
  obtain ⟨front, hfront⟩ := exists_joinPath_eq folder name
  obtain ⟨more, hmore⟩ := FileName.exists_of_extension? h
  rw [hmore, ← List.append_assoc] at hfront
  exact FileName.stem_ne_empty (fileName_ne_empty hfront (by simpa using hne) hslash)

/-- Paths are compared step by step, and the first step that differs decides. -/
def PathLE (p q : String) : Prop :=
  piecesOf '/' p = piecesOf '/' q ∨ List.Lex (· < ·) (piecesOf '/' p) (piecesOf '/' q)

/-- The paths of the names in a folder differ in their last step only. -/
theorem exists_piecesOf_joinPath (folder : String) :
    ∃ steps, ∀ name : String, '/' ∉ name.toList →
      piecesOf '/' (joinPath folder name) = steps ++ [name] := by
  have hjoined {name : String} (front : List Char) (hslash : '/' ∉ name.toList) :
      (splitAt '/' (front ++ '/' :: name.toList)).map String.ofList =
        (splitAt '/' front).map String.ofList ++ [name] := by
    rw [splitAt_append, splitAt_of_not_mem hslash]
    simp
  have hrelative {name : String} (hslash : '/' ∉ name.toList) : name.toList.head? ≠ some '/' :=
    fun h => hslash (List.mem_of_head? h)
  by_cases hempty : folder = ""
  · refine ⟨[], fun name hslash => ?_⟩
    rw [joinPath, if_neg (hrelative hslash), if_pos (.inl hempty), hempty, piecesOf, String.empty_append,
      splitAt_of_not_mem hslash]
    simp
  · by_cases hlast : folder.toList.getLast? = some '/'
    · obtain ⟨front, hfront⟩ := List.getLast?_eq_some_iff.mp hlast
      refine ⟨(splitAt '/' front).map String.ofList, fun name hslash => ?_⟩
      rw [joinPath, if_neg (hrelative hslash), if_pos (.inr hlast), piecesOf, ← hjoined front hslash]
      simp [hfront]
    · refine ⟨piecesOf '/' folder, fun name hslash => ?_⟩
      rw [joinPath, if_neg (hrelative hslash), if_neg (by simp [hempty, hlast]), piecesOf, piecesOf,
        ← hjoined _ hslash]
      simp

theorem pathLE_joinPath {folder a b : String} (ha : '/' ∉ a.toList) (hb : '/' ∉ b.toList)
    (h : a ≤ b) : PathLE (joinPath folder a) (joinPath folder b) := by
  obtain ⟨steps, hsteps⟩ := exists_piecesOf_joinPath folder
  rw [PathLE, hsteps a ha, hsteps b hb]
  by_cases hlt : a < b
  · exact .inr (List.Lex.append_left _ (.rel hlt) steps)
  · exact .inl (by rw [String.le_antisymm h (String.not_lt.mp hlt)])

namespace RuleFile

variable {disk : Disk} {newId : NewId} {path folder : String} {names : List String}

/-! ## Files -/

/-- What must be a rule each in the value of a file: the elements of an array, or else the value itself. -/
def elements (value : Json) : List Json :=
  match value with
  | .array items => items
  | single => [single]

theorem rulesIn_eq (value : Json) : rulesIn value = (elements value).mapM Rule.ofJson := by
  have hsingle (v : Json) :
      (fun rule => [rule]) <$> Rule.ofJson v = [v].mapM Rule.ofJson := by
    rw [List.mapM_cons]
    cases Rule.ofJson v <;> rfl
  cases value with
  | array items => rfl
  | _ => exact hsingle _

/-- A file holds the given rules as they are written. -/
def Holds (disk : Disk) (path : String) (written : List Rule) : Prop :=
  ∃ text value, disk.readText path = .ok text ∧ Json.parse text = .ok value ∧
    List.Forall₂ (fun element rule => Rule.ofJson element = .ok rule) (elements value) written

/-- A file is spoilt in some place: it cannot be read, it is not JSON, or an element of it is no rule. -/
inductive Spoilt (disk : Disk) (path : String) : Prop
  | unreadable {fault} : disk.readText path = .error fault → Spoilt disk path
  | notJson {text fault} : disk.readText path = .ok text → Json.parse text = .error fault →
    Spoilt disk path
  | notRule {text value element mismatch} : disk.readText path = .ok text →
    Json.parse text = .ok value → element ∈ elements value → Rule.ofJson element = .error mismatch →
    Spoilt disk path

/-- The id for a rule without one, by the number of rules in its file and its place among them. -/
def idFor (newId : NewId) (path : String) (count place : Nat) : String :=
  if count = 1 then FileName.stem (fileName path) else newId path place

theorem complete_eq (newId : NewId) (path : String) (written : List Rule) :
    complete newId path written =
      written.mapIdx fun place rule => named (idFor newId path written.length place) rule := by
  match written with
  | [] => rfl
  | [rule] => rfl
  | first :: second :: rest => simp [complete, idFor]

theorem read_of_holds {written : List Rule} (h : Holds disk path written) :
    read disk newId path = .ok (complete newId path written) := by
  obtain ⟨text, value, htext, hvalue, hrules⟩ := h
  have hwritten : rulesIn value = .ok written := by
    rw [rulesIn_eq]
    exact (mapM_eq_ok_iff _ _ _).mpr hrules
  simp only [read, htext, hvalue, hwritten]

theorem exists_error_of_spoilt (h : Spoilt disk path) : ∃ e, read disk newId path = .error e := by
  cases h with
  | @unreadable fault htext => exact ⟨.unreadable path fault, by simp only [read, htext]⟩
  | @notJson text fault htext hvalue =>
    exact ⟨.badJson (.fault fault), by simp only [read, htext, hvalue]⟩
  | @notRule text value element mismatch htext hvalue hmem helement =>
    obtain ⟨first, hfirst⟩ := mapM_eq_error_iff.mpr ⟨element, hmem, mismatch, helement⟩
    rw [← rulesIn_eq] at hfirst
    exact ⟨.badJson (.data first), by simp only [read, htext, hvalue, hfirst]⟩

theorem spoilt_or_holds (disk : Disk) (path : String) :
    Spoilt disk path ∨ ∃ written, Holds disk path written := by
  cases htext : disk.readText path with
  | error fault => exact .inl (.unreadable htext)
  | ok text =>
    cases hvalue : Json.parse text with
    | error fault => exact .inl (.notJson htext hvalue)
    | ok value =>
      cases hrules : (elements value).mapM Rule.ofJson with
      | ok written => exact .inr ⟨written, text, value, htext, hvalue, (mapM_eq_ok_iff _ _ _).mp hrules⟩
      | error first =>
        obtain ⟨element, hmem, mismatch, helement⟩ := mapM_eq_error_iff.mp ⟨first, hrules⟩
        exact .inl (.notRule htext hvalue hmem helement)

/-- What a file adds to the rules of its folder. -/
def contributed (disk : Disk) (newId : NewId) (path : String) : List Rule :=
  (read disk newId path).toOption.getD []

/-- The rules that a file adds are all that it holds, with ids, or none if it is spoilt. -/
structure Contribution (disk : Disk) (newId : NewId) (path : String) (rules : List Rule) : Prop where
  holds : ∀ written, Holds disk path written →
    rules = written.mapIdx fun place rule => named (idFor newId path written.length place) rule
  spoilt : Spoilt disk path → rules = []
  either : Spoilt disk path ∨ ∃ written, Holds disk path written

theorem contributed_of_holds {written : List Rule} (h : Holds disk path written) :
    contributed disk newId path =
      written.mapIdx fun place rule => named (idFor newId path written.length place) rule := by
  rw [contributed, read_of_holds h, complete_eq]
  rfl

theorem contribution_contributed (disk : Disk) (newId : NewId) (path : String) :
    Contribution disk newId path (contributed disk newId path) where
  holds written h := contributed_of_holds h
  spoilt h := by
    obtain ⟨e, he⟩ := exists_error_of_spoilt h
    rw [contributed, he]
    rfl
  either := spoilt_or_holds disk path

/-- What a file adds depends on nothing else on the disk. -/
theorem contributed_congr {other : Disk} (h : other path = disk path) :
    contributed other newId path = contributed disk newId path := by
  simp only [contributed, read, Disk.readText, Disk.read, h]

theorem named_id_ne_empty {id : String} (h : id ≠ "") (rule : Rule) : (named id rule).id ≠ "" := by
  unfold named
  split
  · exact h
  · assumption

/-- Every rule that a file adds has an id, if the file has a name to give. -/
theorem id_ne_empty_of_mem_contributed (hstem : FileName.stem (fileName path) ≠ "")
    (hid : ∀ path place, newId path place ≠ "") {rule : Rule}
    (h : rule ∈ contributed disk newId path) : rule.id ≠ "" := by
  rcases spoilt_or_holds disk path with hspoilt | ⟨written, hwritten⟩
  · rw [(contribution_contributed disk newId path).spoilt hspoilt] at h
    cases h
  · rw [contributed_of_holds hwritten] at h
    obtain ⟨place, _, rfl⟩ := List.mem_mapIdx.mp h
    refine named_id_ne_empty ?_ _
    unfold idFor
    split
    · exact hstem
    · exact hid path place

/-! ## Folders -/

/-- Whether a name in a folder is that of a file with rules. -/
def isRuleFile (disk : Disk) (folder name : String) : Bool :=
  FileName.extension? name = some "json" && disk.isFile (joinPath folder name)

/-- The rules of a folder are gathered from its files with rules, in ascending order of the paths. -/
structure Gathered (disk : Disk) (newId : NewId) (folder : String) (names files : List String)
    (rules : List Rule) : Prop where
  exactly : files.Perm (names.filter (isRuleFile disk folder))
  ascending : files.Pairwise (· ≤ ·)
  ordered : (∀ name ∈ names, '/' ∉ name.toList) → (files.map (joinPath folder)).Pairwise PathLE
  joined : rules = files.flatMap fun name => contributed disk newId (joinPath folder name)

def filesIn (disk : Disk) (folder : String) (names : List String) : List String :=
  (names.mergeSort (· ≤ ·)).filter (isRuleFile disk folder)

theorem pathsIn_eq (disk : Disk) (folder : String) (names : List String) :
    pathsIn disk folder names = (filesIn disk folder names).map (joinPath folder) := by
  simp only [pathsIn, filesIn, List.filter_map, List.filter_filter]
  refine congrArg (List.map (joinPath folder)) (List.filter_congr fun name _ => ?_)
  rw [isRuleFile, Bool.and_comm]
  rfl

theorem readFolder_eq (newId : NewId) (h : disk.names folder = .ok names) :
    readFolder disk newId folder =
      .ok ((filesIn disk folder names).flatMap fun name => contributed disk newId (joinPath folder name)) := by
  rw [readFolder, h]
  dsimp only
  rw [pathsIn_eq, List.flatMap_map]
  congr 2
  funext name
  rw [contributed]
  cases read disk newId (joinPath folder name) <;> rfl

theorem mem_filesIn {name : String} :
    name ∈ filesIn disk folder names ↔ name ∈ names ∧ isRuleFile disk folder name = true := by
  rw [filesIn, List.mem_filter, List.mem_mergeSort]

theorem ascending_filesIn (disk : Disk) (folder : String) (names : List String) :
    (filesIn disk folder names).Pairwise (· ≤ ·) := by
  have hsorted : (names.mergeSort (· ≤ ·)).Pairwise fun a b => decide (a ≤ b) = true :=
    List.pairwise_mergeSort (by simpa using fun a b c => String.le_trans)
      (by simpa using String.le_total) names
  exact (hsorted.imp of_decide_eq_true).filter _

theorem gathered_filesIn (disk : Disk) (newId : NewId) (folder : String) (names : List String) :
    Gathered disk newId folder names (filesIn disk folder names)
      ((filesIn disk folder names).flatMap fun name => contributed disk newId (joinPath folder name)) where
  exactly := (List.mergeSort_perm names _).filter _
  ascending := ascending_filesIn disk folder names
  ordered hslash := by
    refine List.pairwise_map.mpr ((ascending_filesIn disk folder names).imp_of_mem ?_)
    intro a b ha hb hle
    exact pathLE_joinPath (hslash a (mem_filesIn.mp ha).1) (hslash b (mem_filesIn.mp hb).1) hle
  joined := rfl

theorem id_ne_empty_of_mem_filesIn (hid : ∀ path place, newId path place ≠ "") {rule : Rule}
    (h : rule ∈ (filesIn disk folder names).flatMap fun name =>
      contributed disk newId (joinPath folder name)) : rule.id ≠ "" := by
  obtain ⟨name, hname, hrule⟩ := List.mem_flatMap.mp h
  have hfile := (mem_filesIn.mp hname).2
  rw [isRuleFile, Bool.and_eq_true, decide_eq_true_eq] at hfile
  exact id_ne_empty_of_mem_contributed (stem_joinPath_ne_empty hfile.1 (by decide) (by decide)) hid hrule

end RuleFile

namespace Store

/-- Of rules that have an id, all are stored, and the last one with an id is found under it. -/
theorem get?_loadBatch {rules : List Rule} (h : ∀ rule ∈ rules, rule.id ≠ "") (store : Store)
    (now : Time) (id : String) :
    (store.loadBatch now rules).2.get? id =
      ((rules.filter (·.id = id)).getLast?.map ({ · with updatedAt := some now })).or
        (store.get? id) := by
  induction rules generalizing store with
  | nil => rfl
  | cons rule rest ih =>
    obtain ⟨hrule, hrest⟩ := List.forall_mem_cons.mp h
    rw [loadBatch, load_eq, if_neg hrule]
    dsimp only
    rw [ih hrest, get?_changed]
    by_cases hid : rule.id = id
    · -- This rule is found unless a later one has its id.
      rw [List.filter_cons_of_pos (by simpa using hid), List.getLast?_cons]
      cases (rest.filter (·.id = id)).getLast? <;> simp [Change.concerns, Change.rule?, hid]
    · simp [Change.concerns, hid]

theorem loadBatch_fst {rules : List Rule} (h : ∀ rule ∈ rules, rule.id ≠ "") (store : Store)
    (now : Time) : (store.loadBatch now rules).1 = rules.map Rule.id := by
  rw [loadBatch_eq]
  refine List.filter_eq_self.mpr fun id hid => ?_
  obtain ⟨rule, hrule, rfl⟩ := List.mem_map.mp hid
  simpa using h rule hrule

end Store

namespace Command

/-- What comes of rules that are loaded into the store of an engine: each of them is stored, and under an
id the last one that carries it is found. -/
structure Stocked (engine : Engine) (now : Time) (rules : List Rule) (answer : Except CommandFailure Nat)
    (after : Engine) : Prop where
  counted : answer = .ok rules.length
  stored : (engine.store.loadBatch now rules).1 = rules.map Rule.id
  found : ∀ id, after.store.get? id =
    ((rules.filter (·.id = id)).getLast?.map ({ · with updatedAt := some now })).or
      (engine.store.get? id)

theorem stocked_load {disk : Disk} {folder : String} {newId : NewId} {rules : List Rule}
    (hfolder : disk.isFolder folder = true) (hread : RuleFile.readFolder disk newId folder = .ok rules)
    (hid : ∀ rule ∈ rules, rule.id ≠ "") (engine : Engine) (now : Time) :
    Stocked engine now rules (load engine disk newId now folder).1 (load engine disk newId now folder).2 := by
  have hload : load engine disk newId now folder =
      (.ok (engine.store.loadBatch now rules).1.length,
        { engine with store := (engine.store.loadBatch now rules).2 }) := by
    rw [load, if_pos hfolder, hread]
  have hfst := engine.store.loadBatch_fst hid now
  rw [hload]
  exact ⟨by rw [hfst, List.length_map], hfst, Store.get?_loadBatch hid engine.store now⟩

/-- **Loading a folder.** The rules of a folder that can be read are gathered from its regular files with
the extension `json`, in ascending order of their paths. Each of these files adds all the rules that it
holds, with an id where they have none, or none if it is spoilt; the other files have no say in that. So
every rule that is gathered has an id, as long as new ids are not empty. Loading them tells their number
and stores them all, and under an id the last of those that carry it is found. -/
theorem load_gathers {disk : Disk} {folder : String} {names : List String} {newId : NewId}
    (hnames : disk.names folder = .ok names) (hid : ∀ path place, newId path place ≠ "") :
    ∃ files rules, RuleFile.readFolder disk newId folder = .ok rules ∧
      RuleFile.Gathered disk newId folder names files rules ∧
      (∀ path, RuleFile.Contribution disk newId path (RuleFile.contributed disk newId path)) ∧
      (∀ (other : Disk) path, other path = disk path →
        RuleFile.contributed other newId path = RuleFile.contributed disk newId path) ∧
      (∀ rule ∈ rules, rule.id ≠ "") ∧
      ∀ engine now, Stocked engine now rules (load engine disk newId now folder).1
        (load engine disk newId now folder).2 := by
  have hfolder := Disk.isFolder_of_names hnames
  have hread := RuleFile.readFolder_eq newId hnames
  refine ⟨_, _, hread, RuleFile.gathered_filesIn disk newId folder names,
    RuleFile.contribution_contributed disk newId, fun _ _ => RuleFile.contributed_congr, ?_, ?_⟩
  · exact fun rule => RuleFile.id_ne_empty_of_mem_filesIn hid
  · exact stocked_load hfolder hread fun rule => RuleFile.id_ne_empty_of_mem_filesIn hid

/-- A folder with two rules of one name, a rule that is named after its file, a spoilt file, a file of
another kind, and a folder with the name of a file. -/
def shelf : Disk
  | "rules" => .ok (.folder ["twice.json", "notes.txt", "lone.json", "inner.json", "spoilt.json"])
  | "rules/inner.json" => .ok (.folder [])
  | "rules/lone.json" => .ok (.file (Utf8.bytesOf "\x7b\"label\":\"one\"\x7d"))
  | "rules/notes.txt" => .ok (.file (Utf8.bytesOf "\x7b\x7d"))
  | "rules/spoilt.json" => .ok (.file (Utf8.bytesOf "[\x7b\x7d,[[]]]"))
  | "rules/twice.json" => .ok (.file (Utf8.bytesOf "[\x7b\"id\":\"lone\"\x7d,\x7b\x7d]"))
  | _ => .error .notFound

def emptyEngine : Engine := .new .standard .standard .messages .empty

theorem holds_shelf_lone : RuleFile.Holds shelf "rules/lone.json" [⟨"", "one", .null, none⟩] :=
  ⟨"\x7b\"label\":\"one\"\x7d", .object [("label", .string "one")],
    Disk.readText_of_file rfl (by decide +kernel), by cbv, .cons rfl .nil⟩

theorem holds_shelf_twice : RuleFile.Holds shelf "rules/twice.json"
    [⟨"lone", "", .null, none⟩, ⟨"", "", .null, none⟩] :=
  ⟨"[\x7b\"id\":\"lone\"\x7d,\x7b\x7d]", .array [.object [("id", .string "lone")], .object []],
    Disk.readText_of_file rfl (by decide +kernel), by cbv, .cons rfl (.cons rfl .nil)⟩

theorem spoilt_shelf_spoilt : RuleFile.Spoilt shelf "rules/spoilt.json" := by
  have htext : shelf.readText "rules/spoilt.json" = .ok "[\x7b\x7d,[[]]]" :=
    Disk.readText_of_file rfl (by decide +kernel)
  have hvalue : Json.parse "[\x7b\x7d,[[]]]" = .ok (.array [.object [], .array [.array []]]) := by cbv
  exact .notRule htext hvalue (.tail _ (.head _)) rfl

/-- The file with two rules comes last, and its first rule takes the place of the one that is named after
the first file. -/
theorem shelf_gathers : shelf.names "rules" =
      .ok ["twice.json", "notes.txt", "lone.json", "inner.json", "spoilt.json"] ∧
    RuleFile.readFolder shelf (fun _ _ => "new") "rules" =
      .ok [⟨"lone", "one", .null, none⟩, ⟨"lone", "", .null, none⟩, ⟨"new", "", .null, none⟩] ∧
    ∀ now, (load emptyEngine shelf (fun _ _ => "new") now "rules").1 = .ok 3 ∧
      (load emptyEngine shelf (fun _ _ => "new") now "rules").2.store.get? "lone" =
        some ⟨"lone", "", .null, some now⟩ := by
  obtain ⟨files, rules, hread, hgathered, hcontribution, -, -, hload⟩ :=
    @load_gathers shelf "rules" _ (fun _ _ => "new") rfl (by simp)
  have hfiles : files = ["lone.json", "spoilt.json", "twice.json"] := by
    refine List.Perm.eq_of_pairwise (fun _ _ _ _ => String.le_antisymm) hgathered.ascending
      (by decide +kernel) (hgathered.exactly.trans ?_)
    decide +kernel
  have hlone := (hcontribution "rules/lone.json").holds _ holds_shelf_lone
  have hspoilt := (hcontribution "rules/spoilt.json").spoilt spoilt_shelf_spoilt
  have htwice := (hcontribution "rules/twice.json").holds _ holds_shelf_twice
  have hstem : FileName.stem (fileName "rules/lone.json") = "lone" := by decide +kernel
  have hrules : rules =
      [⟨"lone", "one", .null, none⟩, ⟨"lone", "", .null, none⟩, ⟨"new", "", .null, none⟩] := by
    rw [hgathered.joined, hfiles]
    simp only [List.flatMap_cons, List.flatMap_nil]
    rw [show joinPath "rules" "lone.json" = "rules/lone.json" by decide +kernel,
      show joinPath "rules" "spoilt.json" = "rules/spoilt.json" by decide +kernel,
      show joinPath "rules" "twice.json" = "rules/twice.json" by decide +kernel, hlone, hspoilt, htwice]
    simp [RuleFile.idFor, RuleFile.named, hstem]
  refine ⟨rfl, hrules ▸ hread, fun now => ⟨?_, ?_⟩⟩
  · rw [(hload emptyEngine now).counted, hrules]
    rfl
  · rw [(hload emptyEngine now).found, hrules]
    rfl

end Command

end RuleTree
