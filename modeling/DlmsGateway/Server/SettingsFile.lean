import DlmsGateway.Buffer
import DlmsGateway.Server.ReadSettings

/-!
# Which settings files are read right

A file is the lines of the thirteen fields with any values, and maybe lines behind them.  It is
read right when nothing is written outside an array, every value that fits its field ends up there,
and no line changes the field of another one.
-/
set_option autoImplicit false
namespace DlmsGateway
open ByteStore Arrays

/-! ## Settings files -/

namespace SettingsField

def keyText : SettingsField → List UInt8
  | serialNumber => asciiBytes "SerialNumber="
  | productYear => asciiBytes "ProductYear="
  | manufactureID => asciiBytes "manufactureID="
  | ip => asciiBytes "IP="
  | port => asciiBytes "PORT="
  | listenPORT => asciiBytes "ListenPORT="
  | apn => asciiBytes "APN="
  | authKey => asciiBytes "AuthKey="
  | broadEncKey => asciiBytes "BroadEncKey="
  | uniEncKey => asciiBytes "UniEncKey="
  | kek => asciiBytes "KEK="
  | llsPass => asciiBytes "LLSPass="
  | mdm => asciiBytes "MDM="

end SettingsField

structure SettingsLines where
  value : SettingsField → List UInt8
  additional : List (List UInt8)
  finalNewline : Bool
  plain : ∀ f, 0 ∉ value f ∧ 10 ∉ value f
  single : ∀ line ∈ additional, 10 ∉ line

namespace SettingsLines
variable (l : SettingsLines)

def line (f : SettingsField) : List UInt8 := f.keyText ++ l.value f

def lines : List (List UInt8) := SettingsField.all.map l.line ++ l.additional

/-- The lines that a newline ends. -/
def ended : List (List UInt8) := if l.finalNewline then l.lines else l.lines.dropLast

def unended : List UInt8 := if l.finalNewline then [] else (l.lines.getLast?).getD []

def bytes : List UInt8 := joined l.ended ++ l.unended

end SettingsLines

structure SettingsFile extends SettingsLines where
  short : toSettingsLines.bytes.length ≤ 1000

/-! ## What is promised -/

def fieldText (settings : Bytes 152) (f : SettingsField) : List UInt8 :=
  cString settings.get f.start f.size

def IsHexKey (value : List UInt8) : Prop :=
  value.length = 32 ∧ ∀ c ∈ value, (hexDigit c).isSome = true

/-- Byte `i` of the key that is written with hexadecimal digits. -/
def keyByte (value : List UInt8) (i : Nat) : UInt8 :=
  16 * (hexDigit (value.getD (2 * i) 0)).getD 0 + (hexDigit (value.getD (2 * i + 1) 0)).getD 0

namespace SettingsFile
variable (file : SettingsFile)

def after (n : Nat) : SettingsReader := (file.ended.take n).foldl SettingsReader.handleLine .init

/-- Nothing is written outside an array, every value that fits its field is there, and a line
changes no field but its own. -/
structure ReadRight : Prop where
  inside : Within SettingsArray.size (startWrites file.bytes)
  text : ∀ f, f.isKey = false → (file.value f).length < f.size →
    fieldText (readSettings file.bytes).settings f = file.value f
  key : ∀ f, f.isKey = true → IsHexKey (file.value f) →
    ∀ i < 16, (readSettings file.bytes).settings.get (f.start + i) = keyByte (file.value f) i
  others : ∀ n < file.ended.length, ∀ f, SettingsField.all[n]? ≠ some f → ∀ i < f.size,
    (file.after (n + 1)).settings.get (f.start + i) = (file.after n).settings.get (f.start + i)

/-- The line of the last field is ended. -/
def ModemEnded : Prop := file.finalNewline = true ∨ file.additional ≠ []

/-- The lines fit the rows, the values their fields, and the texts made of them their buffers; the
last value is empty or too long, where nothing ends its line. -/
structure Fits : Prop where
  rows : ∀ (n : Nat) line, file.ended[n]? = some line → line.length ≤ 100 ∧ (n < 20 ∨ line = [])
  values : ∀ f, f.isKey = false → (f = .mdm → file.ModemEnded) →
    (file.value f).length < f.size
  serial : (file.value .serialNumber).length < 8
  identifier : (file.value .manufactureID).length + 2 + (file.value .productYear).length +
    (file.value .serialNumber).length < 15
  modem : ¬ file.ModemEnded → file.value .mdm = [] ∨ 5 ≤ (file.value .mdm).length

end SettingsFile

/-! ## The fields -/

namespace SettingsField
variable {f g : SettingsField}

def index : SettingsField → Nat
  | serialNumber => 0
  | productYear => 1
  | manufactureID => 2
  | ip => 3
  | port => 4
  | listenPORT => 5
  | apn => 6
  | authKey => 7
  | broadEncKey => 8
  | uniEncKey => 9
  | kek => 10
  | llsPass => 11
  | mdm => 12

theorem getElem?_index (f : SettingsField) : all[f.index]? = some f := by
  cases f <;> rfl

theorem index_lt (f : SettingsField) : f.index < 13 := by
  cases f <;> decide

theorem index_of_getElem? {n : Nat} (there : all[n]? = some f) : f.index = n := by
  have inside : f.index < all.length := index_lt f
  exact (List.getElem?_inj inside (by decide)).mp (by rw [getElem?_index, there])

theorem start_add_size_le (before : f.index < g.index) : f.start + f.size ≤ g.start := by
  cases f <;> cases g <;> first | exact absurd before (by decide) | decide

theorem field_inside (f : SettingsField) : f.start + f.size ≤ 152 := by
  cases f <;> decide

theorem size_of_isKey (key : f.isKey = true) : f.size = 16 := by
  cases f <;> first | rfl | cases key

theorem length_keyText (f : SettingsField) : f.keyText.length = f.offset := by
  cases f <;> decide

theorem keyText_single (f : SettingsField) : 10 ∉ f.keyText := by
  cases f <;> decide

theorem apart (other : f ≠ g) {i : Nat} (inside : i < f.size) :
    f.start + i < g.start ∨ g.start + g.size ≤ f.start + i := by
  have different : f.index ≠ g.index := by
    intro same
    have there := getElem?_index f
    rw [same, getElem?_index g] at there
    exact other (Option.some.inj there).symm
  by_cases before : f.index < g.index
  · have := start_add_size_le before
    omega
  · have := start_add_size_le (show g.index < f.index by omega)
    omega

end SettingsField

/-! ## The lines -/

namespace SettingsLines
variable {l : SettingsLines} {n : Nat} {line : List UInt8}

theorem length_all : SettingsField.all.length = 13 := rfl

theorem lines_getElem? {f : SettingsField} (turn : SettingsField.all[n]? = some f) :
    l.lines[n]? = some (l.line f) := by
  have index := SettingsField.index_of_getElem? turn
  have few := f.index_lt
  rw [lines, List.getElem?_append_left (by rw [List.length_map, length_all]; omega),
    List.getElem?_map, turn, Option.map_some]

theorem lines_of_ended (there : l.ended[n]? = some line) : l.lines[n]? = some line := by
  rw [ended] at there
  split at there
  · exact there
  · rw [List.getElem?_dropLast] at there
    split at there
    · exact there
    · cases there

theorem line_of_ended {f : SettingsField} (there : l.ended[n]? = some line)
    (turn : SettingsField.all[n]? = some f) : line = l.line f := by
  have same := lines_of_ended there
  rw [lines_getElem? turn] at same
  exact (Option.some.inj same).symm

theorem line_single (f : SettingsField) : 10 ∉ l.line f := by
  rw [line, List.mem_append]
  rintro (member | member)
  · exact f.keyText_single member
  · exact (l.plain f).2 member

theorem lines_single : ∀ line ∈ l.lines, 10 ∉ line := by
  intro line member
  rw [lines, List.mem_append, List.mem_map] at member
  rcases member with ⟨f, -, rfl⟩ | member
  · exact line_single f
  · exact l.single line member

theorem ended_single : ∀ line ∈ l.ended, 10 ∉ line := by
  intro line member
  obtain ⟨n, there⟩ := List.mem_iff_getElem?.mp member
  exact lines_single line (List.mem_of_getElem? (lines_of_ended there))

theorem unended_single : 10 ∉ l.unended := by
  rw [unended]
  split
  · simp
  · cases last : l.lines.getLast? with
    | none => simp
    | some line => exact lines_single line (List.mem_of_getLast? last)

theorem length_lines : l.lines.length = 13 + l.additional.length := by
  rw [lines, List.length_append, List.length_map, length_all]

theorem twelve_le_length_ended : 12 ≤ l.ended.length := by
  have length := l.length_lines
  rw [ended]
  split
  · omega
  · rw [List.length_dropLast]
    omega

end SettingsLines

namespace SettingsFile
variable {file : SettingsFile} {n : Nat} {line : List UInt8}

theorem modemEnded_iff : file.ModemEnded ↔ 12 < file.ended.length := by
  have length := file.length_lines
  rw [ModemEnded, SettingsLines.ended]
  cases file.finalNewline with
  | true =>
      rw [if_pos rfl, length]
      exact iff_of_true (.inl rfl) (by omega)
  | false =>
      rw [if_neg (by decide), List.length_dropLast, ← List.length_pos_iff]
      simp only [Bool.false_eq_true, false_or]
      omega

theorem index_lt_length_ended (f : SettingsField) (last : f = .mdm → file.ModemEnded) :
    f.index < file.ended.length := by
  have twelve := file.twelve_le_length_ended
  by_cases modem : f = .mdm
  · rw [modem]
    exact modemEnded_iff.mp (last modem)
  · have before : f.index < 12 := by
      cases f <;> first | decide | exact absurd rfl modem
    omega

theorem readSettings_eq : readSettings file.bytes = file.after file.ended.length := by
  rw [readSettings, List.take_of_length_le file.short, SettingsLines.bytes,
    readLines_joined SettingsReader.handleLine file.ended_single file.unended_single, after,
    List.take_length]

theorem after_succ (there : file.ended[n]? = some line) :
    file.after (n + 1) = (file.after n).handleLine line := by
  rw [after, after, List.take_add_one, there, Option.toList_some, List.foldl_append]
  rfl

/-! ## The rows -/

theorem cnt_handleLine (s : SettingsReader) (line : List UInt8) :
    (s.handleLine line).cnt = s.cnt + 1 := by
  rw [SettingsReader.handleLine]
  cases SettingsField.all[s.cnt]? with
  | none => rfl
  | some f => rfl

theorem data_handleLine (s : SettingsReader) (line : List UInt8) :
    (s.handleLine line).data = s.data.copy (100 * s.cnt) (ofList line) line.length := by
  rw [SettingsReader.handleLine]
  cases SettingsField.all[s.cnt]? with
  | none => rfl
  | some f => rfl

theorem ended_getElem? (below : n < file.ended.length) :
    ∃ line, file.ended[n]? = some line := ⟨_, List.getElem?_eq_getElem below⟩

theorem cnt_after : ∀ n ≤ file.ended.length, (file.after n).cnt = n := by
  intro n
  induction n with
  | zero => intro _; rfl
  | succ n ih =>
      intro inside
      obtain ⟨line, there⟩ := ended_getElem? (show n < file.ended.length by omega)
      rw [after_succ there, cnt_handleLine, ih (by omega)]

def RowsFit (file : SettingsFile) : Prop :=
  ∀ (n : Nat) line, file.ended[n]? = some line → line.length ≤ 100

theorem data_after (rows : file.RowsFit) : ∀ n ≤ file.ended.length, ∀ p, 100 * n ≤ p →
    (file.after n).data.get p = 0 := by
  intro n
  induction n with
  | zero => intro _ p _; exact Bytes.get_zero p
  | succ n ih =>
      intro inside p behind
      obtain ⟨line, there⟩ := ended_getElem? (show n < file.ended.length by omega)
      have short := rows n line there
      rw [after_succ there, data_handleLine, cnt_after n (by omega),
        Bytes.get_copy_outside _ _ _ _ (.inr (by omega))]
      exact ih (by omega) p (by omega)

theorem rowText_eq (rows : file.RowsFit) {f : SettingsField} (there : file.ended[n]? = some line)
    (turn : SettingsField.all[n]? = some f) :
    ((file.after n).storeLine line).rowText n f = file.value f := by
  obtain ⟨below, -⟩ := List.getElem?_eq_some_iff.mp there
  have few := f.index_lt
  rw [SettingsField.index_of_getElem? turn] at few
  have short := rows n line there
  obtain rfl := SettingsLines.line_of_ended there turn
  have length : (file.line f).length = f.offset + (file.value f).length := by
    rw [SettingsLines.line, List.length_append, f.length_keyText]
  have stored : ((file.after n).storeLine (file.line f)).data =
      (file.after n).data.copy (100 * n) (ofList (file.line f)) (file.line f).length := by
    rw [SettingsReader.storeLine, cnt_after n (by omega)]
  rw [SettingsReader.rowText, stored]
  apply cString_eq (file.plain f).1 _ (by omega)
  · intro _
    rw [Bytes.get_copy_outside _ _ _ _ (.inr (by omega))]
    exact data_after rows n (by omega) _ (by omega)
  · rw [window_eq_iff]
    intro k inside
    rw [Nat.add_assoc, Bytes.get_copy_inside _ _ _ (by omega) (by omega), SettingsLines.line,
      ← f.length_keyText, ofList_append_right]

theorem after_field (rows : file.RowsFit) {f : SettingsField}
    (there : file.ended[n]? = some line) (turn : SettingsField.all[n]? = some f) :
    file.after (n + 1) = ((file.after n).storeLine line).assign f (file.value f) := by
  obtain ⟨below, -⟩ := List.getElem?_eq_some_iff.mp there
  rw [after_succ there, SettingsReader.handleLine, cnt_after n (by omega), turn]
  dsimp only
  rw [rowText_eq rows there turn]

theorem after_other (there : file.ended[n]? = some line)
    (behind : SettingsField.all[n]? = none) :
    file.after (n + 1) = (file.after n).storeLine line := by
  obtain ⟨below, -⟩ := List.getElem?_eq_some_iff.mp there
  rw [after_succ there, SettingsReader.handleLine, cnt_after n (by omega), behind]

/-! ## What is written to -/

theorem within_written_iff {f : SettingsField} {value : List UInt8} (short : value.length < 100) :
    Within SettingsArray.size (f.written value) ↔ (f.isKey = false → value.length < f.size) := by
  have positive : 0 < f.size := by cases f <;> decide
  rw [SettingsField.written]
  cases key : f.isKey with
  | true =>
      have sixteen := SettingsField.size_of_isKey key
      refine iff_of_true ?_ nofun
      rw [if_pos rfl, within_append]
      constructor
      · simp only [within_cons, within_nil, inside_mk, SettingsArray.size, and_true]
        omega
      · intro access member
        obtain ⟨i, inside, rfl⟩ := List.mem_map.mp member
        rw [inside_element, SettingsArray.size, sixteen]
        exact List.mem_range.mp inside
  | false =>
      rw [if_neg (by decide)]
      simp only [within_cons, within_nil, inside_mk, SettingsArray.size, and_true, forall_const]
      omega

theorem writes_handleLine (s : SettingsReader) (line : List UInt8) :
    ∃ rest, (s.handleLine line).writes =
      s.writes ++ [⟨.data s.cnt, 0, line.length⟩, ⟨.tmp, 0, 50⟩] ++ rest := by
  rw [SettingsReader.handleLine]
  cases SettingsField.all[s.cnt]? with
  | none => exact ⟨[], by rw [List.append_nil]; rfl⟩
  | some f => exact ⟨f.written _, rfl⟩

theorem rows_of_within : ∀ n ≤ file.ended.length, Within SettingsArray.size (file.after n).writes →
    ∀ m < n, ∀ line, file.ended[m]? = some line → line.length ≤ 100 := by
  intro n
  induction n with
  | zero => intro _ _ m below; omega
  | succ n ih =>
      intro inside within m below line there
      obtain ⟨last, ended⟩ := ended_getElem? (show n < file.ended.length by omega)
      obtain ⟨rest, writes⟩ := writes_handleLine (file.after n) last
      rw [after_succ ended, writes, within_append, within_append, within_cons,
        cnt_after n (by omega)] at within
      obtain ⟨⟨before, row, -⟩, -⟩ := within
      by_cases now : m = n
      · subst now
        rw [ended] at there
        cases there
        rw [inside_mk, SettingsArray.size] at row
        split at row <;> omega
      · exact ih (by omega) before m (by omega) line there

theorem inside_row_iff {n length : Nat} (short : length ≤ 100) :
    (Access.mk (SettingsArray.data n) 0 length).Inside SettingsArray.size ↔
      n < 20 ∨ length = 0 := by
  rw [inside_mk, SettingsArray.size]
  by_cases early : n < 20
  · rw [if_pos early]
    exact iff_of_true (.inr (by omega)) (.inl early)
  · rw [if_neg early, Nat.zero_add, Nat.le_zero, or_self, or_iff_right early]

/-- What one more line writes: its row, and its field. -/
theorem within_after_succ_iff (rows : file.RowsFit) (there : file.ended[n]? = some line) :
    Within SettingsArray.size (file.after (n + 1)).writes ↔
      Within SettingsArray.size (file.after n).writes ∧ (n < 20 ∨ line = []) ∧
        ∀ f, SettingsField.all[n]? = some f →
          Within SettingsArray.size (f.written (file.value f)) := by
  obtain ⟨below, -⟩ := List.getElem?_eq_some_iff.mp there
  have row := inside_row_iff (n := n) (rows n line there)
  rw [List.length_eq_zero_iff] at row
  have stored : ((file.after n).storeLine line).writes = (file.after n).writes ++
      [⟨.data n, 0, line.length⟩, ⟨.tmp, 0, 50⟩] := by
    rw [SettingsReader.storeLine, cnt_after n (by omega)]
  have tmp : (Access.mk SettingsArray.tmp 0 50).Inside SettingsArray.size :=
    .inr (Nat.le_refl 50)
  cases turn : SettingsField.all[n]? with
  | none =>
      rw [after_other there turn, stored, within_append, within_cons, within_cons, row]
      simp [tmp]
  | some f =>
      have writes : (file.after (n + 1)).writes =
          ((file.after n).storeLine line).writes ++ f.written (file.value f) := by
        rw [after_field rows there turn, SettingsReader.assign]
      rw [writes, stored, within_append, within_append, within_cons, within_cons, row]
      simp [tmp, and_assoc]

theorem within_after_iff (rows : file.RowsFit) : ∀ n ≤ file.ended.length,
    Within SettingsArray.size (file.after n).writes ↔
      ∀ m < n, ∀ line, file.ended[m]? = some line → (m < 20 ∨ line = []) ∧
        ∀ f, SettingsField.all[m]? = some f →
          Within SettingsArray.size (f.written (file.value f)) := by
  intro n
  induction n with
  | zero =>
      intro _
      refine iff_of_true (within_nil _) ?_
      intro m below
      omega
  | succ n ih =>
      intro inside
      obtain ⟨last, ended⟩ := ended_getElem? (show n < file.ended.length by omega)
      rw [within_after_succ_iff rows ended, ih (by omega)]
      constructor
      · intro ⟨before, now⟩ m below line there
        by_cases last_ : m = n
        · subst last_
          rw [ended] at there
          cases there
          exact now
        · exact before m (by omega) line there
      · intro all
        exact ⟨fun m below => all m (by omega), all n (by omega) last ended⟩

end SettingsFile

/-! ## What a field gets -/

section Assign
variable {f : SettingsField} {value : List UInt8}

theorem temp_text (plain : 0 ∉ value) (short : value.length < 100) (start : Nat) :
    cString ((Bytes.zero : Bytes 100).copy 0 (ofList value) (value.length + 1)).get start
      (100 - start) = value.drop start := by
  have stored (p : Nat) :
      ((Bytes.zero : Bytes 100).copy 0 (ofList value) (value.length + 1)).get p =
        ofList value p := by
    rw [Bytes.get_copy, Bytes.get_zero]
    by_cases inside : p < value.length + 1
    · rw [if_pos ⟨by omega, by omega, by omega⟩, Nat.sub_zero]
    · rw [if_neg (by omega), ofList_of_length_le (by omega)]
  apply cString_eq (fun member => plain (List.mem_of_mem_drop member))
  · rw [window_eq_iff]
    intro k inside
    rw [stored, ofList_drop]
  · rw [List.length_drop]
    omega
  · intro _
    rw [stored, List.length_drop, ofList_of_length_le (by omega)]

theorem get_scanKey_outside (temp : Bytes 100) (settings : Bytes 152) (start p : Nat) :
    ∀ n, p < start ∨ start + n ≤ p → (scanKey temp settings start n).get p = settings.get p := by
  intro n
  induction n with
  | zero => intro _; rfl
  | succ n ih =>
      intro outside
      rw [scanKey]
      cases scanHex (cString temp.get (2 * n) (100 - 2 * n)) with
      | none => exact ih (by omega)
      | some b =>
          dsimp only
          rw [Bytes.get_set_ne _ _ (by omega), ih (by omega)]

theorem get_scanKey_inside (temp : Bytes 100) (settings : Bytes 152) (start i : Nat) :
    ∀ n, i < n → start + n ≤ 152 → (scanKey temp settings start n).get (start + i) =
      (scanHex (cString temp.get (2 * i) (100 - 2 * i))).getD (settings.get (start + i)) := by
  intro n
  induction n with
  | zero => intro below; omega
  | succ n ih =>
      intro below inside
      rw [scanKey]
      by_cases last : i = n
      · subst last
        cases scanHex (cString temp.get (2 * i) (100 - 2 * i)) with
        | none => exact get_scanKey_outside temp settings start (start + i) i (.inr (by omega))
        | some b => exact Bytes.get_set_self _ _ (by omega)
      · cases scanHex (cString temp.get (2 * n) (100 - 2 * n)) with
        | none => exact ih (by omega) (by omega)
        | some b =>
            dsimp only
            rw [Bytes.get_set_ne _ _ (by omega), ih (by omega) (by omega)]

namespace SettingsField

/-- What the bytes of a field become: the text and zeros, or the bytes of a key. -/
def content (f : SettingsField) (value : List UInt8) (i : Nat) : UInt8 :=
  if f.isKey then (scanHex (value.drop (2 * i))).getD 0 else ofList value i

end SettingsField

theorem get_cleared (s : SettingsReader) {i : Nat} (inside : i < f.size) :
    (s.cleared f).get (f.start + i) = 0 := by
  have bound := f.field_inside
  rw [SettingsReader.cleared, Bytes.get_copy_inside _ _ _ inside (by omega)]

theorem get_assign_inside (s : SettingsReader) (plain : 0 ∉ value)
    (fits : if f.isKey then value.length < 100 else value.length < f.size) {i : Nat}
    (inside : i < f.size) :
    (s.assign f value).settings.get (f.start + i) = f.content value i := by
  have bound := f.field_inside
  rw [SettingsReader.assign, SettingsField.content]
  cases key : f.isKey with
  | true =>
      have sixteen := SettingsField.size_of_isKey key
      rw [key, if_pos rfl] at fits
      simp only [if_true]
      rw [get_scanKey_inside _ _ _ _ 16 (by omega) (by omega), temp_text plain fits,
        get_cleared s inside]
  | false =>
      rw [key, if_neg (by decide)] at fits
      simp only [Bool.false_eq_true, if_false]
      by_cases stored : i < value.length + 1
      · rw [Bytes.get_copy_inside _ _ _ stored (by omega)]
      · rw [Bytes.get_copy_outside _ _ _ _ (.inr (by omega)), get_cleared s inside,
          ofList_of_length_le (by omega)]

theorem get_assign_outside (s : SettingsReader) {p : Nat}
    (fits : f.isKey = false → value.length < f.size)
    (outside : p < f.start ∨ f.start + f.size ≤ p) :
    (s.assign f value).settings.get p = s.settings.get p := by
  have cleared : (s.cleared f).get p = s.settings.get p :=
    Bytes.get_copy_outside _ _ _ _ outside
  rw [SettingsReader.assign]
  cases key : f.isKey with
  | true =>
      have sixteen := SettingsField.size_of_isKey key
      simp only [if_true]
      rw [get_scanKey_outside _ _ _ _ 16 (by omega), cleared]
  | false =>
      have short := fits key
      simp only [Bool.false_eq_true, if_false]
      rw [Bytes.get_copy_outside _ _ _ _ (by omega), cleared]

theorem isSpace_of_hexDigit {c : UInt8} (digit : (hexDigit c).isSome = true) :
    isSpace c = false := by
  by_contra space
  rw [Bool.not_eq_false, isSpace, Bool.or_eq_true, Bool.and_eq_true] at space
  simp only [decide_eq_true_eq, UInt8.le_iff_toNat_le] at space
  have low : c.toNat < 48 := by
    obtain rfl | ⟨-, tab⟩ := space
    · decide
    · exact Nat.lt_of_le_of_lt tab (by decide)
  have no (n : UInt8) (high : 48 ≤ n.toNat) : ¬ n ≤ c := by
    rw [UInt8.le_iff_toNat_le]
    omega
  rw [hexDigit, if_neg fun both => no 48 (by decide) both.1,
    if_neg fun both => no 65 (by decide) both.1,
    if_neg fun both => no 97 (by decide) both.1] at digit
  cases digit

theorem content_of_isHexKey (key : f.isKey = true) (digits : IsHexKey value) {i : Nat}
    (inside : i < 16) : f.content value i = keyByte value i := by
  obtain ⟨length, hex⟩ := digits
  have first : 2 * i < value.length := by omega
  have second : 2 * i + 1 < value.length := by omega
  obtain ⟨high, highDigit⟩ :=
    Option.isSome_iff_exists.mp (hex value[2 * i] (List.getElem_mem first))
  obtain ⟨low, lowDigit⟩ :=
    Option.isSome_iff_exists.mp (hex value[2 * i + 1] (List.getElem_mem second))
  have solid : isSpace value[2 * i] = false :=
    isSpace_of_hexDigit (hex _ (List.getElem_mem first))
  have pair : value.drop (2 * i) = value[2 * i] :: value[2 * i + 1] :: value.drop (2 * i + 2) := by
    rw [List.drop_eq_getElem_cons first, List.drop_eq_getElem_cons second]
  rw [SettingsField.content, key, if_pos rfl, pair, scanHex, List.dropWhile_cons, solid]
  simp only [Bool.false_eq_true, if_false, List.head?_cons, highDigit, lowDigit]
  rw [keyByte, List.getD, List.getD, List.getElem?_eq_getElem first,
    List.getElem?_eq_getElem second, Option.getD_some, Option.getD_some, Option.getD_some,
    highDigit, lowDigit, Option.getD_some, Option.getD_some]

end Assign

/-- A text that fits its field, with zeros behind it, is read back in any room. -/
theorem text_of_content {settings : Bytes 152} {f : SettingsField} {value : List UInt8} {room : Nat}
    (plain : 0 ∉ value) (fits : value.length < f.size) (wide : f.size ≤ room)
    (filled : ∀ i < f.size, settings.get (f.start + i) = ofList value i) :
    cString settings.get f.start room = value := by
  apply cString_eq plain _ (by omega)
  · intro _
    rw [filled _ fits, ofList_of_length_le (Nat.le_refl _)]
  · rw [window_eq_iff]
    intro k inside
    exact filled k (by omega)

/-! ## All lines -/

namespace SettingsFile
variable {file : SettingsFile} {n : Nat} {line : List UInt8}

def ValuesFit (file : SettingsFile) : Prop :=
  ∀ f, f.isKey = false → f.index < file.ended.length → (file.value f).length < f.size

theorem length_value (rows : file.RowsFit) {f : SettingsField} (there : file.ended[n]? = some line)
    (turn : SettingsField.all[n]? = some f) : (file.value f).length < 100 := by
  have short := rows n line there
  obtain rfl := SettingsLines.line_of_ended there turn
  have positive : 0 < f.offset := by cases f <;> decide
  rw [SettingsLines.line, List.length_append, f.length_keyText] at short
  omega

theorem get_after_succ_of_ne (rows : file.RowsFit) (values : file.ValuesFit)
    (below : n < file.ended.length) {g : SettingsField} (other : SettingsField.all[n]? ≠ some g)
    {i : Nat} (inside : i < g.size) :
    (file.after (n + 1)).settings.get (g.start + i) =
      (file.after n).settings.get (g.start + i) := by
  obtain ⟨line, there⟩ := ended_getElem? below
  cases turn : SettingsField.all[n]? with
  | none => rw [after_other there turn, SettingsReader.storeLine]
  | some f =>
      have index := SettingsField.index_of_getElem? turn
      have different : g ≠ f := by
        rintro rfl
        exact other turn
      rw [after_field rows there turn,
        get_assign_outside _ _ (SettingsField.apart different inside)]
      · rfl
      · intro text
        exact values f text (by omega)

theorem get_after (rows : file.RowsFit) (values : file.ValuesFit) : ∀ n ≤ file.ended.length,
    ∀ (g : SettingsField), ∀ i < g.size, (file.after n).settings.get (g.start + i) =
      if g.index < n then g.content (file.value g) i else 0 := by
  intro n
  induction n with
  | zero => intro _ g i _; exact Bytes.get_zero _
  | succ n ih =>
      intro inside g i within
      by_cases turn : SettingsField.all[n]? = some g
      · obtain ⟨line, there⟩ := ended_getElem? (show n < file.ended.length by omega)
        have index := SettingsField.index_of_getElem? turn
        have short := length_value rows there turn
        have fits : if g.isKey then (file.value g).length < 100
            else (file.value g).length < g.size := by
          cases key : g.isKey with
          | true => exact short
          | false => exact values g key (by omega)
        rw [after_field rows there turn, get_assign_inside _ (file.plain g).1 fits within,
          if_pos (by omega)]
      · have different : g.index ≠ n := by
          rintro rfl
          exact turn g.getElem?_index
        rw [get_after_succ_of_ne rows values (by omega) turn within, ih (by omega) g i within]
        by_cases before : g.index < n
        · rw [if_pos before, if_pos (by omega)]
        · rw [if_neg before, if_neg (by omega)]

theorem text_after (rows : file.RowsFit) (values : file.ValuesFit) {f : SettingsField}
    (text : f.isKey = false) (reached : f.index < file.ended.length) {room : Nat}
    (wide : f.size ≤ room) :
    cString (file.after file.ended.length).settings.get f.start room = file.value f := by
  apply text_of_content (file.plain f).1 (values f text reached) wide
  intro i inside
  rw [get_after rows values _ (Nat.le_refl _) f i inside, if_pos reached, SettingsField.content,
    text, if_neg (by decide)]

/-- The last field stays empty without the end of its line. -/
theorem modem_after (rows : file.RowsFit) (values : file.ValuesFit)
    (last : ¬ file.ModemEnded) :
    fieldText (file.after file.ended.length).settings .mdm = [] := by
  rw [modemEnded_iff] at last
  refine text_of_content (by simp) (by decide) (Nat.le_refl _) ?_
  intro i inside
  rw [get_after rows values _ (Nat.le_refl _) .mdm i inside]
  exact if_neg last

theorem within_identityWrites_iff (rows : file.RowsFit) (values : file.ValuesFit) :
    Within SettingsArray.size (identityWrites (file.after file.ended.length).settings) ↔
      (file.value .serialNumber).length < 8 ∧
        (file.value .manufactureID).length + 2 + (file.value .productYear).length +
          (file.value .serialNumber).length < 15 := by
  have twelve := file.twelve_le_length_ended
  have text (f : SettingsField) (kind : f.isKey = false) (early : f.index < 12) :
      settingsText (file.after file.ended.length).settings f = file.value f := by
    have bound := f.field_inside
    exact text_after rows values kind (by omega) (by omega)
  rw [identityWrites, text .serialNumber rfl (by decide), text .productYear rfl (by decide),
    text .manufactureID rfl (by decide)]
  simp only [within_cons, within_nil, inside_mk, SettingsArray.size, and_true]
  omega

theorem rowsFit_of_within
    (within : Within SettingsArray.size (file.after file.ended.length).writes) :
    file.RowsFit := by
  intro n line there
  obtain ⟨below, -⟩ := List.getElem?_eq_some_iff.mp there
  exact rows_of_within _ (Nat.le_refl _) within n below line there

theorem valuesFit_of_within (rows : file.RowsFit)
    (within : Within SettingsArray.size (file.after file.ended.length).writes) :
    file.ValuesFit := by
  intro f text reached
  obtain ⟨line, there⟩ := ended_getElem? reached
  have writes := ((within_after_iff rows _ (Nat.le_refl _)).mp within f.index reached line there).2
    f f.getElem?_index
  exact (within_written_iff (length_value rows there f.getElem?_index)).mp writes text

/-- Nothing is written outside an array exactly if the lines, the values and the texts made of
them fit. -/
theorem inside_iff : Within SettingsArray.size (startWrites file.bytes) ↔
    (∀ (n : Nat) line, file.ended[n]? = some line → line.length ≤ 100 ∧ (n < 20 ∨ line = [])) ∧
      file.ValuesFit ∧ (file.value .serialNumber).length < 8 ∧
        (file.value .manufactureID).length + 2 + (file.value .productYear).length +
          (file.value .serialNumber).length < 15 := by
  rw [startWrites, readSettings_eq, within_append]
  constructor
  · intro ⟨read, identity⟩
    have rows := rowsFit_of_within read
    have values := valuesFit_of_within rows read
    refine ⟨?_, values, (within_identityWrites_iff rows values).mp identity⟩
    intro n line there
    obtain ⟨below, -⟩ := List.getElem?_eq_some_iff.mp there
    exact ⟨rows n line there,
      ((within_after_iff rows _ (Nat.le_refl _)).mp read n below line there).1⟩
  · intro ⟨lines, values, identity⟩
    have rows : file.RowsFit := fun n line there => (lines n line there).1
    refine ⟨(within_after_iff rows _ (Nat.le_refl _)).mpr ?_,
      (within_identityWrites_iff rows values).mpr identity⟩
    intro n below line there
    refine ⟨(lines n line there).2, ?_⟩
    intro f turn
    rw [within_written_iff (length_value rows there turn)]
    intro text
    have index := SettingsField.index_of_getElem? turn
    exact values f text (by omega)

theorem fieldText_eq (rows : file.RowsFit) (values : file.ValuesFit) {f : SettingsField}
    (text : f.isKey = false)
    (modem : f = .mdm → ¬ file.ModemEnded → file.value .mdm = []) :
    fieldText (readSettings file.bytes).settings f = file.value f := by
  rw [readSettings_eq]
  by_cases reached : f.index < file.ended.length
  · exact text_after rows values text reached (Nat.le_refl _)
  · have last : f = .mdm := by
      by_contra other
      exact reached (index_lt_length_ended f fun last => absurd last other)
    subst last
    have unended : ¬ file.ModemEnded := fun ended => reached (modemEnded_iff.mp ended)
    rw [modem_after rows values unended, modem rfl unended]

theorem key_eq (rows : file.RowsFit) (values : file.ValuesFit) {f : SettingsField}
    (key : f.isKey = true) (digits : IsHexKey (file.value f)) {i : Nat} (inside : i < 16) :
    (readSettings file.bytes).settings.get (f.start + i) = keyByte (file.value f) i := by
  have sixteen := SettingsField.size_of_isKey key
  have reached : f.index < file.ended.length :=
    index_lt_length_ended f (by rintro rfl; cases key)
  rw [readSettings_eq, get_after rows values _ (Nat.le_refl _) f i (by omega), if_pos reached,
    content_of_isHexKey key digits inside]

/-- The file is read as it should exactly if its lines and values fit, and the last line is ended
or does not matter. -/
theorem readRight_iff (file : SettingsFile) : file.ReadRight ↔ file.Fits := by
  constructor
  · intro right
    obtain ⟨lines, values, serial, identifier⟩ := inside_iff.mp right.inside
    have rows : file.RowsFit := fun n line there => (lines n line there).1
    refine ⟨lines, ?_, serial, identifier, ?_⟩
    · intro f text last
      exact values f text (index_lt_length_ended f last)
    · intro last
      by_contra neither
      rw [not_or, Nat.not_le] at neither
      have text := right.text .mdm rfl neither.2
      rw [readSettings_eq, modem_after rows values last] at text
      exact neither.1 text.symm
  · intro fits
    have rows : file.RowsFit := fun n line there => (fits.rows n line there).1
    have values : file.ValuesFit := by
      intro f text reached
      apply fits.values f text
      rintro rfl
      exact modemEnded_iff.mpr reached
    refine ⟨inside_iff.mpr ⟨fits.rows, values, fits.serial, fits.identifier⟩, ?_, ?_, ?_⟩
    · intro f text short
      apply fieldText_eq rows values text
      rintro rfl last
      exact (fits.modem last).resolve_right (Nat.not_le.mpr short)
    · intro f key digits i inside
      exact key_eq rows values key digits inside
    · intro n below f other i inside
      exact get_after_succ_of_ne rows values below other inside

/-- A serial number of eight digits, which its field has room for. -/
def eightDigits : SettingsFile where
  value
    | .serialNumber => asciiBytes "12345678"
    | .productYear => asciiBytes "02"
    | .manufactureID => asciiBytes "ZSS"
    | .authKey | .broadEncKey | .uniEncKey | .kek => List.replicate 32 0x30
    | _ => asciiBytes "1"
  additional := []
  finalNewline := true
  plain f := by cases f <;> decide
  single _ member := by cases member
  short := by decide +kernel

theorem eight_digits_overflow : ¬ eightDigits.ReadRight := by
  intro right
  obtain ⟨-, -, serial, -⟩ := inside_iff.mp right.inside
  exact absurd serial (by decide)

end SettingsFile
end DlmsGateway
