import Chip8.Proofs.Hexadecimal
import Chip8.Proofs.RegisterWidths
import Chip8.Screen
import Mathlib.Data.List.Basic

/-!
The register listing. Every register stands in it once, under its name and with all digits of its content, so
the register map is read back from the two lines. This holds of every state, also of those that only
assignments from outside lead to.
-/

namespace Chip8

/-! ## Reading -/

/-- Reads the name and the content of a register. -/
def readEntry (text : List Char) : Option (String × Int) :=
  match text.splitOn '=' with
  | [name, digits] =>
      (readInteger 16 (.ofChars digits)).toOption.map fun content => (String.ofList name, content)
  | _ => none

/-- Reads the registers line by line. -/
def readListing (text : String) : Option (List (List (String × Int))) :=
  (text.toList.splitOn '\n').mapM fun line => (line.splitOn ' ').mapM readEntry

theorem mapM_map_some {α β γ : Type} {write : α → β} {read : β → Option γ} {meaning : α → γ}
    {items : List α} (inverse : ∀ item ∈ items, read (write item) = some (meaning item)) :
    (items.map write).mapM read = some (items.map meaning) := by
  induction items with
  | nil => rfl
  | cons item items ih =>
      obtain ⟨first, rest⟩ := List.forall_mem_cons.mp inverse
      simp [List.mapM_cons, first, ih rest]

/-- The text holds none of the marks. -/
def Lacks (marks text : List Char) : Prop := ∀ mark ∈ marks, mark ∉ text

instance (marks text : List Char) : Decidable (Lacks marks text) :=
  List.decidableBAll (fun mark => mark ∉ text) marks

section Joined

variable {mark : Char} {separator : String} {parts : List String}

theorem splitOn_joined (single : separator.toList = [mark])
    (apart : ∀ part ∈ parts, mark ∉ part.toList) (filled : parts ≠ []) :
    (separator.intercalate parts).toList.splitOn mark = parts.map String.toList := by
  rw [String.toList_intercalate, single]
  apply List.splitOn_intercalate
  · intro characters member
    obtain ⟨part, listed, rfl⟩ := List.mem_map.mp member
    exact apart part listed
  · simpa using filled

theorem not_mem_joined (outside : mark ∉ separator.toList) (apart : ∀ part ∈ parts, mark ∉ part.toList) :
    mark ∉ (separator.intercalate parts).toList := by
  induction parts with
  | nil => simp
  | cons part parts ih =>
      obtain ⟨first, rest⟩ := List.forall_mem_cons.mp apart
      cases parts with
      | nil => simpa using first
      | cons next parts =>
          have later := ih rest
          rw [String.intercalate_cons_cons, String.toList_append, String.toList_append]
          simp only [List.mem_append, not_or]
          exact ⟨⟨first, outside⟩, later⟩

end Joined

/-! ## Entries -/

/-- A register in the listing, with the width that its content is padded to. -/
structure RegisterEntry where
  width : Nat
  name : String
  content : Int

namespace RegisterEntry

def text (entry : RegisterEntry) : String := s!"{entry.name}={upperHex entry.width entry.content}"

def pair (entry : RegisterEntry) : String × Int := (entry.name, entry.content)

/-- The name holds none of the characters that cut a listing. -/
def Plain (entry : RegisterEntry) : Prop := Lacks [' ', '\n', '='] entry.name.toList

theorem text_joined (entry : RegisterEntry) :
    entry.text = "=".intercalate [entry.name, upperHex entry.width entry.content] := by
  rw [String.intercalate_cons_cons, String.intercalate_singleton]
  rfl

theorem lacks_upperHex (width : Nat) (content : Int) :
    Lacks [' ', '\n', '='] (upperHex width content).toList := by
  intro mark isMark member
  obtain ⟨sign, factor, digits, text, signed, numeral, _⟩ := signed_upperHex width content
  rw [text, List.mem_append] at member
  rcases member with inSign | inDigits
  · have table : ∀ entry ∈ signs, Lacks [' ', '\n', '='] entry.1 := by decide
    exact table (sign, factor) signed mark isMark inSign
  · obtain ⟨digit, isDigit⟩ := numeral.isDigit mark inDigits
    exact isDigit.of_table (fun character _ => character ∉ [' ', '\n', '=']) (by decide) (by decide) isMark

theorem Plain.not_mem {entry : RegisterEntry} (plain : entry.Plain) {mark : Char}
    (isMark : mark ∈ [' ', '\n', '=']) :
    ∀ part ∈ [entry.name, upperHex entry.width entry.content], mark ∉ part.toList := by
  intro part member
  simp only [List.mem_cons, List.not_mem_nil, or_false] at member
  rcases member with rfl | rfl
  · exact plain mark isMark
  · exact lacks_upperHex _ _ mark isMark

theorem not_mem_texts {entries : List RegisterEntry} (plain : ∀ entry ∈ entries, entry.Plain) {mark : Char}
    (isMark : mark ∈ [' ', '\n']) : ∀ part ∈ entries.map text, mark ∉ part.toList := by
  intro part member
  obtain ⟨entry, listed, rfl⟩ := List.mem_map.mp member
  have other : Lacks [' ', '\n'] "=".toList := by decide
  rw [text_joined]
  exact not_mem_joined (other mark isMark) ((plain entry listed).not_mem (List.mem_append_left ['='] isMark))

theorem Plain.readEntry {entry : RegisterEntry} (plain : entry.Plain) :
    Chip8.readEntry entry.text.toList = some entry.pair := by
  have cut : entry.text.toList.splitOn '=' =
      [entry.name.toList, (upperHex entry.width entry.content).toList] := by
    rw [text_joined]
    exact splitOn_joined rfl (plain.not_mem (by simp)) (List.cons_ne_nil _ _)
  rw [Chip8.readEntry, cut]
  simp [readInteger_upperHex, Except.toOption, pair]

/-! ## Lines -/

def line (entries : List RegisterEntry) : String := " ".intercalate (entries.map text)

variable {entries : List RegisterEntry}

theorem readLine (plain : ∀ entry ∈ entries, entry.Plain) (filled : entries ≠ []) :
    ((line entries).toList.splitOn ' ').mapM Chip8.readEntry = some (entries.map pair) := by
  rw [line, splitOn_joined rfl (not_mem_texts plain (by simp)) (by simpa using filled), List.map_map]
  exact mapM_map_some fun entry listed => (plain entry listed).readEntry

/-- An empty text is not a line, since no entry is read from it. -/
theorem isEmpty_line (plain : ∀ entry ∈ entries, entry.Plain) (filled : entries ≠ []) :
    (line entries).isEmpty = false := by
  rw [String.isEmpty_eq_false_iff]
  intro empty
  have read := readLine plain filled
  have none : ("".toList.splitOn ' ').mapM Chip8.readEntry = none := rfl
  rw [empty, none] at read
  cases read

theorem line_append {first second : List RegisterEntry} (filled : first ≠ []) (also : second ≠ []) :
    line (first ++ second) = line first ++ " " ++ line second := by
  induction first with
  | nil => exact absurd rfl filled
  | cons entry first ih =>
      cases first with
      | nil =>
          obtain ⟨next, second, rfl⟩ := List.exists_cons_of_ne_nil also
          simp [line]
      | cons next first =>
          have later := ih (List.cons_ne_nil next first)
          simp only [line, List.cons_append, List.map_cons, String.intercalate_cons_cons] at later ⊢
          rw [later]
          simp only [String.append_assoc]

theorem listed_entries (entries : List RegisterEntry) {registers : List (String × Int)} {width : Nat}
    (found : ∀ entry ∈ entries, entry.width = width ∧
      registers.lookup entry.name = some entry.content) :
    listed registers width (entries.map name) = line entries := by
  have texts : (entries.map name).filterMap (fun name =>
      (registers.lookup name).map fun value => s!"{name}={upperHex width value}") =
        entries.map text := by
    induction entries with
    | nil => rfl
    | cons entry entries ih =>
        obtain ⟨⟨wide, known⟩, rest⟩ := List.forall_mem_cons.mp found
        rw [List.map_cons, List.filterMap_cons, known, ih rest, List.map_cons, text, wide]
        rfl
  rw [listed, texts, line]

theorem readListing_lines {lines : List (List RegisterEntry)}
    (plain : ∀ entries ∈ lines, ∀ entry ∈ entries, entry.Plain)
    (filled : ∀ entries ∈ lines, entries ≠ []) (present : lines ≠ []) :
    readListing ("\n".intercalate (lines.map line)) = some (lines.map fun entries => entries.map pair) := by
  have apart : ∀ part ∈ lines.map line, '\n' ∉ part.toList := by
    intro part member
    obtain ⟨entries, listed, rfl⟩ := List.mem_map.mp member
    exact not_mem_joined (by decide) (not_mem_texts (plain entries listed) (by simp))
  rw [readListing, splitOn_joined rfl apart (by simpa using present), List.map_map]
  apply mapM_map_some
  intro entries listed
  exact readLine (plain entries listed) (filled entries listed)

end RegisterEntry

/-! ## The listing -/

namespace State

open RegisterEntry (line isEmpty_line line_append)

def byteEntries (state : State) : List RegisterEntry :=
  (List.finRange 16).map fun register => ⟨2, register.name, (state.value register).toNat⟩

def pointerEntries (state : State) : List RegisterEntry :=
  [⟨4, "PC", state.pc⟩, ⟨4, "I", state.i.toNat⟩]

def timerEntries (state : State) : List RegisterEntry :=
  [⟨2, "SP", state.sp⟩, ⟨2, "DT", state.delayTimer.toNat⟩, ⟨2, "ST", state.soundTimer.toNat⟩]

/-- The lines of the listing. -/
def listing (state : State) : List (List RegisterEntry) :=
  [state.byteEntries, state.pointerEntries ++ state.timerEntries]

theorem name_register :
    ∀ register : Register, isByteRegister register.name = true ∧
      register.name ∉ ["I", "PC", "SP", "DT", "ST"] ∧ Lacks [' ', '\n', '='] register.name.toList := by
  decide +kernel

theorem registerMap_entries (state : State) :
    state.registerMap = state.byteEntries.map RegisterEntry.pair ++
      [("I", (state.i.toNat : Int)), ("PC", state.pc), ("SP", (state.sp : Int)),
        ("DT", (state.delayTimer.toNat : Int)), ("ST", (state.soundTimer.toNat : Int))] := by
  rw [registerMap, byteEntries, List.map_map]
  rfl

theorem plain_listing (state : State) : ∀ entries ∈ state.listing, ∀ entry ∈ entries, entry.Plain := by
  intro entries member entry listed
  simp only [listing, List.mem_cons, List.not_mem_nil, or_false] at member
  rcases member with rfl | rfl
  · obtain ⟨register, _, rfl⟩ := List.mem_map.mp listed
    exact (name_register register).2.2
  · have table : ∀ name ∈ ["PC", "I", "SP", "DT", "ST"], Lacks [' ', '\n', '='] name.toList := by decide
    exact table entry.name (List.mem_map_of_mem listed)

theorem filled_listing (state : State) : ∀ entries ∈ state.listing, entries ≠ [] := by
  simp [listing, byteEntries, pointerEntries]

theorem lookup_special (state : State) {entry : RegisterEntry}
    (special : entry ∈ state.pointerEntries ++ state.timerEntries) :
    state.registerMap.lookup entry.name = some entry.content := by
  have absent {name : String} (other : name ∈ ["I", "PC", "SP", "DT", "ST"]) :
      (state.byteEntries.map RegisterEntry.pair).lookup name = none := by
    rw [List.lookup_eq_none_iff, byteEntries, List.map_map]
    intro entry member
    obtain ⟨register, _, rfl⟩ := List.mem_map.mp member
    have different : name ≠ register.name := fun same => (name_register register).2.1 (same ▸ other)
    simpa [RegisterEntry.pair] using different
  simp only [pointerEntries, timerEntries, List.cons_append, List.nil_append, List.mem_cons,
    List.not_mem_nil, or_false] at special
  rcases special with rfl | rfl | rfl | rfl | rfl <;>
    rw [registerMap_entries, List.lookup_append, absent (by simp), Option.none_or] <;> rfl

theorem listed_special (state : State) {width : Nat} {entries : List RegisterEntry}
    (special : entries ⊆ state.pointerEntries ++ state.timerEntries)
    (wide : ∀ entry ∈ entries, entry.width = width) :
    listed state.registerMap width (entries.map (·.name)) = line entries :=
  RegisterEntry.listed_entries entries fun entry member =>
    ⟨wide entry member, state.lookup_special (special member)⟩

theorem filter_registerMap (state : State) :
    (state.registerMap.filter fun register => isByteRegister register.1) =
      state.byteEntries.map RegisterEntry.pair := by
  rw [registerMap_entries, List.filter_append, List.filter_eq_self.mpr, List.filter_eq_nil_iff.mpr,
    List.append_nil]
  · intro entry member
    simp only [List.mem_cons, List.not_mem_nil, or_false] at member
    rcases member with rfl | rfl | rfl | rfl | rfl <;> simp [isByteRegister]
  · intro entry member
    rw [byteEntries, List.map_map] at member
    obtain ⟨register, _, rfl⟩ := List.mem_map.mp member
    exact (name_register register).1

theorem map_filter_registerMap (state : State) {write : String × Int → String}
    (writes : ∀ name content, write (name, content) = RegisterEntry.text ⟨2, name, content⟩) :
    (state.registerMap.filter fun register => isByteRegister register.1).map write =
      state.byteEntries.map RegisterEntry.text := by
  rw [filter_registerMap, List.map_map]
  apply List.map_congr_left
  intro entry listed
  obtain ⟨register, _, rfl⟩ := List.mem_map.mp listed
  exact writes _ _

theorem registerText_listing (state : State) :
    registerText state.registerMap = "\n".intercalate (state.listing.map RegisterEntry.line) := by
  have pointers : listed state.registerMap 4 ["PC", "I"] = line state.pointerEntries :=
    state.listed_special (List.subset_append_left _ _) (by simp [pointerEntries])
  have timers : listed state.registerMap 2 ["SP", "DT", "ST"] = line state.timerEntries :=
    state.listed_special (List.subset_append_right _ _) (by simp [timerEntries])
  have pointersFilled : state.pointerEntries ≠ [] := List.cons_ne_nil _ _
  have timersFilled : state.timerEntries ≠ [] := List.cons_ne_nil _ _
  have plain := state.plain_listing (state.pointerEntries ++ state.timerEntries) (by simp [listing])
  obtain ⟨plainPointers, plainTimers⟩ := List.forall_mem_append.mp plain
  -- No part of the listing is empty, so none is left out.
  have shown : (state.listing.map line).filter (fun part => !part.isEmpty) = state.listing.map line := by
    rw [List.filter_eq_self]
    intro part member
    obtain ⟨entries, listed, rfl⟩ := List.mem_map.mp member
    rw [isEmpty_line (state.plain_listing entries listed) (state.filled_listing entries listed)]
    rfl
  rw [registerText, map_filter_registerMap, pointers, timers, isEmpty_line plainPointers pointersFilled,
    isEmpty_line plainTimers timersFilled, if_neg Bool.false_ne_true, if_neg Bool.false_ne_true,
    ← line_append pointersFilled timersFilled, ← shown]
  · rfl
  · exact fun _ _ => rfl

/-- The map is put together again from the lines. -/
theorem listing_perm_registerMap (state : State) :
    (state.byteEntries.map RegisterEntry.pair ++
      (state.pointerEntries ++ state.timerEntries).map RegisterEntry.pair).Perm state.registerMap := by
  rw [registerMap_entries]
  exact (List.Perm.swap _ _ _).append_left _

theorem registerMap_of_listing {first second : State}
    (same : (first.listing.map fun entries => entries.map RegisterEntry.pair) =
      second.listing.map fun entries => entries.map RegisterEntry.pair) :
    first.registerMap = second.registerMap := by
  simp only [listing, List.map_cons, List.cons.injEq] at same
  obtain ⟨bytes, special, _⟩ := same
  simp only [pointerEntries, timerEntries, List.cons_append, List.nil_append, List.map_cons,
    RegisterEntry.pair, List.cons.injEq, Prod.mk.injEq, true_and] at special
  obtain ⟨pc, index, sp, delay, sound, _⟩ := special
  rw [registerMap_entries, registerMap_entries, bytes, pc, index, sp, delay, sound]

theorem readListing_registerText (state : State) :
    readListing (registerText state.registerMap) =
      some (state.listing.map fun entries => entries.map RegisterEntry.pair) := by
  rw [registerText_listing]
  exact RegisterEntry.readListing_lines state.plain_listing state.filled_listing (List.cons_ne_nil _ _)

/-- Nothing is lost in the listing. Read back, it is two lines that together hold the register map: the byte
registers in their order, then pointers and timers. So two states are listed alike exactly if their
registers are the same, whatever the limits of their stacks. -/
theorem registers_read_back :
    (∀ state : State, ∃ bytes special,
      readListing (registerText state.registerMap) = some [bytes, special] ∧
      bytes.map Prod.fst = (List.finRange 16).map Register.name ∧
      special.map Prod.fst = ["PC", "I", "SP", "DT", "ST"] ∧
      (bytes ++ special).Perm state.registerMap ∧ (state.registerMap.map Prod.fst).Nodup) ∧
    ∀ first second : State,
      registerText first.registerMap = registerText second.registerMap ↔
        first.registerMap = second.registerMap := by
  constructor
  · intro state
    refine ⟨_, _, state.readListing_registerText, ?_, rfl, state.listing_perm_registerMap, ?_⟩
    · rw [byteEntries, List.map_map, List.map_map]
      rfl
    · rw [← state.names_widths]
      exact nodup_widths
  · intro first second
    refine ⟨fun same => registerMap_of_listing ?_, congrArg registerText⟩
    have read := first.readListing_registerText
    rw [same, second.readListing_registerText] at read
    exact (Option.some.inj read).symm

/-- A stack that is deeper than two digits tell. -/
example : registerText ({ stack := List.replicate 300 0x202 } : State).registerMap =
    "V0=00 V1=00 V2=00 V3=00 V4=00 V5=00 V6=00 V7=00 V8=00 V9=00 VA=00 VB=00 VC=00 VD=00 VE=00 VF=00\n" ++
      "PC=0200 I=0000 SP=12C DT=00 ST=00" := by
  decide +kernel

end State

end Chip8
