import Highlighter.Payload
import Mathlib.Data.List.Sort

/-! The lines of a document as those see them who are told about changes only. A sheet maps every
line that has something on it to what that is. A record of a change says what a line has now, or
that it has nothing any more.
-/

namespace Highlighter

/-- What the lines of a document have on them; the others have nothing. -/
abbrev Sheet (α : Type) := Std.ExtTreeMap Int α

namespace Sheet

variable {α : Type}

/-- A line gets something new on it, or loses what it has. -/
def amend (sheet : Sheet α) (line : Int) : Option α → Sheet α
  | some content => sheet.insert line content
  | none => sheet.erase line

/-- Records amend their lines one after the other. -/
def patch (sheet : Sheet α) (records : List (Int × Option α)) : Sheet α :=
  records.foldl (fun sheet record => sheet.amend record.1 record.2) sheet

/-- Only the line itself is amended, by the map's own laws. -/
@[simp] theorem getElem?_amend (sheet : Sheet α) (line other : Int) (content : Option α)
    : (sheet.amend line content)[other]? = if other = line then content else sheet[other]? := by
  have turned : compare line other = .eq ↔ other = line :=
    Std.compare_eq_iff_eq.trans eq_comm
  cases content with
  | none => simp only [amend, Std.ExtTreeMap.getElem?_erase, turned]
  | some content => simp only [amend, Std.ExtTreeMap.getElem?_insert, turned]

/-- A line without a record stays as it was, by induction over the records. -/
theorem getElem?_patch_of_ne {records : List (Int × Option α)} {line : Int}
    (elsewhere : ∀ record ∈ records, record.1 ≠ line) (sheet : Sheet α)
    : (sheet.patch records)[line]? = sheet[line]? := by
  induction records generalizing sheet with
  | nil => rfl
  | cons record rest ih =>
      have different := elsewhere record List.mem_cons_self
      have others := fun later member => elsewhere later (List.mem_cons_of_mem record member)
      refine (ih others _).trans ?_
      rw [getElem?_amend, if_neg (Ne.symm different)]

/-- A line has what its record says, if it has one record only, by induction over the records. -/
theorem getElem?_patch_of_mem {records : List (Int × Option α)}
    (distinct : records.Pairwise fun a b => a.1 ≠ b.1) {record : Int × Option α}
    (member : record ∈ records) (sheet : Sheet α)
    : (sheet.patch records)[record.1]? = record.2 := by
  induction records generalizing sheet with
  | nil => contradiction
  | cons first rest ih =>
      obtain ⟨apart, others⟩ := List.pairwise_cons.mp distinct
      rcases List.mem_cons.mp member with rfl | later
      · have kept := getElem?_patch_of_ne (fun other present => Ne.symm (apart other present))
          (sheet.amend record.1 record.2)
        rw [getElem?_amend, if_pos rfl] at kept
        exact kept
      · exact ih others later _

/-- The sheet of some lines with what is on them. -/
def ofList (lines : List (Int × α)) : Sheet α := Std.ExtTreeMap.ofList lines

/-- A line of a sheet has on it what was listed for it, if the listed lines ascend. -/
theorem getElem?_ofList {lines : List (Int × α)}
    (ascending : lines.Pairwise fun a b => a.1 < b.1) {line : Int} {content : α}
    : (ofList lines)[line]? = some content ↔ (line, content) ∈ lines := by
  have distinct : lines.Pairwise fun a b => ¬ compare a.1 b.1 = .eq :=
    ascending.imp fun less => by simpa using Int.ne_of_lt less
  have found {content : α} (member : (line, content) ∈ lines)
      : (ofList lines)[line]? = some content :=
    Std.ExtTreeMap.getElem?_ofList_of_mem Std.ReflCmp.compare_self distinct member
  refine ⟨fun listed => ?_, found⟩
  cases known : (lines.map Prod.fst).contains line with
  | false =>
      have missing : (ofList lines)[line]? = none :=
        Std.ExtTreeMap.getElem?_ofList_of_contains_eq_false known
      rw [missing] at listed
      contradiction
  | true =>
      obtain ⟨⟨_, other⟩, member, rfl⟩ := List.mem_map.mp (List.contains_iff_mem.mp known)
      rw [found member] at listed
      rwa [← Option.some.inj listed]

/-- A sheet lists its lines as they ascend: two ascending lists of the same lines are equal. -/
theorem toList_ofList {lines : List (Int × α)}
    (ascending : lines.Pairwise fun a b => a.1 < b.1)
    : (ofList lines).toList = lines := by
  have listed : (ofList lines).toList.Pairwise fun a b => a.1 < b.1 :=
    Std.ExtTreeMap.ordered_keys_toList.imp Int.compare_eq_lt.mp
  have once {part : List (Int × α)} (sorted : part.Pairwise fun a b => a.1 < b.1)
      : part.Nodup :=
    sorted.imp fun less same => Int.ne_of_lt less (congrArg Prod.fst same)
  have same : (ofList lines).toList.Perm lines := by
    refine (List.perm_ext_iff_of_nodup (once listed) (once ascending)).mpr ?_
    rintro ⟨line, content⟩
    rw [Std.ExtTreeMap.mem_toList_iff_getElem?_eq_some, getElem?_ofList ascending]
  refine same.eq_of_pairwise (fun a b _ _ less more => ?_) listed ascending
  exact absurd more (Int.lt_asymm less)

end Sheet

/-- What a line has on it now; nothing, if it has no tokens. -/
def Line.record (line : Line) : Int × Option (List Token) :=
  (line.line, if line.tokens.isEmpty then none else some line.tokens)

/-- What a line has on it now; nothing, if its payload is empty. -/
def EncodedLine.record (line : EncodedLine) : Int × Option String :=
  (line.line, if line.payload.isEmpty then none else some line.payload)

/-- The tokens of lines as a sheet. -/
def Line.sheet (lines : List Line) : Sheet (List Token) :=
  .ofList (lines.map fun line => (line.line, line.tokens))

/-- The payloads of lines as a sheet. -/
def EncodedLine.sheet (lines : List EncodedLine) : Sheet String :=
  .ofList (lines.map fun line => (line.line, line.payload))

/-- The lines of a sheet as they ascend. -/
def Line.ofSheet (sheet : Sheet (List Token)) : List Line :=
  sheet.toList.map fun (line, tokens) => ⟨line, tokens⟩

end Highlighter
