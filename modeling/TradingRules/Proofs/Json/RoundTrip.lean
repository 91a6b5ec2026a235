import Mathlib.Data.List.DropRight
import TradingRules.Proofs.Json.Strings
import TradingRules.Proofs.Json.Numerals
import TradingRules.Json.Source

namespace TradingRules

open Json

mutual

/-- The lists and objects of a value are no deeper than these levels, and its numbers are of some
kind. -/
def Json.Within (levels : Nat) (kind : Number → Prop) : Json → Prop
  | .number n => kind n
  | .array items => levels ≠ 0 ∧ WithinItems (levels - 1) kind items
  | .object members => levels ≠ 0 ∧ WithinMembers (levels - 1) kind members
  | _ => True

def Json.WithinItems (levels : Nat) (kind : Number → Prop) : List Json → Prop
  | [] => True
  | v :: rest => v.Within levels kind ∧ Json.WithinItems levels kind rest

def Json.WithinMembers (levels : Nat) (kind : Number → Prop) : List (String × Json) → Prop
  | [] => True
  | (_, v) :: rest => v.Within levels kind ∧ Json.WithinMembers levels kind rest

end

/-- A value whose text can be read, though not always as the same value. -/
abbrev Json.Readable (levels : Nat) (v : Json) : Prop :=
  v.Within levels Number.Readable

abbrev Json.Legible (levels : Nat) (v : Json) : Prop :=
  v.Within levels Number.Legible

theorem Json.withinItems_iff {levels : Nat} {kind : Number → Prop} {items : List Json} :
    Json.WithinItems levels kind items ↔ ∀ v ∈ items, v.Within levels kind := by
  induction items with
  | nil => simp [WithinItems]
  | cons v rest ih => simp [WithinItems, ih]

theorem Json.withinMembers_iff {levels : Nat} {kind : Number → Prop}
    {members : List (String × Json)} :
    Json.WithinMembers levels kind members ↔ ∀ m ∈ members, m.2.Within levels kind := by
  induction members with
  | nil => simp [WithinMembers]
  | cons m rest ih => simp [WithinMembers, ih]

mutual

/-- What the text of a value is read as: the same, but for the numbers. -/
def Json.reread : Json → Source
  | .null => .null
  | .bool b => .bool b
  | .number n => .number n.reread?
  | .string s => .string (some s)
  | .array items => .array (rereadItems items) true
  | .object members => .object (rereadMembers members) true

def Json.rereadItems : List Json → List Source
  | [] => []
  | v :: rest => v.reread :: Json.rereadItems rest

def Json.rereadMembers : List (String × Json) → List (Option String × Source)
  | [] => []
  | (name, v) :: rest => (some name, v.reread) :: Json.rereadMembers rest

end

namespace Json

mutual

theorem Within.mono {kind kind' : Number → Prop} (hkind : ∀ n, kind n → kind' n) {levels : Nat} :
    ∀ {v : Json}, v.Within levels kind → v.Within levels kind'
  | .null, _ | .bool _, _ | .string _, _ => trivial
  | .number n, h => hkind n h
  | .array _, h => ⟨h.1, withinItems_mono hkind h.2⟩
  | .object _, h => ⟨h.1, withinMembers_mono hkind h.2⟩

theorem withinItems_mono {kind kind' : Number → Prop} (hkind : ∀ n, kind n → kind' n)
    {levels : Nat} : ∀ {items : List Json}, WithinItems levels kind items →
      WithinItems levels kind' items
  | [], _ => trivial
  | _ :: _, h => ⟨h.1.mono hkind, withinItems_mono hkind h.2⟩

theorem withinMembers_mono {kind kind' : Number → Prop} (hkind : ∀ n, kind n → kind' n)
    {levels : Nat} : ∀ {members : List (String × Json)}, WithinMembers levels kind members →
      WithinMembers levels kind' members
  | [], _ => trivial
  | _ :: _, h => ⟨h.1.mono hkind, withinMembers_mono hkind h.2⟩

end

mutual

theorem reread_eq {levels : Nat} : ∀ {v : Json}, v.Legible levels → v.reread = .ofJson v
  | .null, _ | .bool _, _ | .string _, _ => rfl
  | .number _, h => congrArg Source.number (Number.Legible.reread?_eq_some h)
  | .array _, h => congrArg (Source.array · true) (rereadItems_eq h.2)
  | .object _, h => congrArg (Source.object · true) (rereadMembers_eq h.2)

theorem rereadItems_eq {levels : Nat} : ∀ {items : List Json},
    WithinItems levels Number.Legible items → rereadItems items = Source.ofItems items
  | [], _ => rfl
  | _ :: _, h => congrArg₂ List.cons (reread_eq h.1) (rereadItems_eq h.2)

theorem rereadMembers_eq {levels : Nat} : ∀ {members : List (String × Json)},
    WithinMembers levels Number.Legible members → rereadMembers members = Source.ofMembers members
  | [], _ => rfl
  | _ :: _, h => congrArg₂ (fun s rest ↦ (_, s) :: rest) (reread_eq h.1) (rereadMembers_eq h.2)

end

def IsBlank (c : Char) : Prop :=
  c = ' ' ∨ c = '\t' ∨ c = '\n' ∨ c = '\r'

structure Spacing.Blank (y : Spacing) : Prop where
  lineAt : ∀ level, ∀ c ∈ y.lineAt level, IsBlank c
  gap : ∀ c ∈ y.gap, IsBlank c

theorem blank_none : Spacing.none.Blank :=
  ⟨fun _ _ h ↦ (List.not_mem_nil h).elim, fun _ h ↦ (List.not_mem_nil h).elim⟩

theorem skipBlanks_append {bs : List Char} (h : ∀ c ∈ bs, IsBlank c) (cs : List Char) :
    skipBlanks (bs ++ cs) = skipBlanks cs := by
  refine List.dropWhile_append_of_pos fun c hc ↦ ?_
  rcases h c hc with rfl | rfl | rfl | rfl <;> rfl

theorem skipBlanks_of_ne {c : Char} {cs : List Char} (h₁ : c ≠ ' ') (h₂ : c ≠ '\t') (h₃ : c ≠ '\n')
    (h₄ : c ≠ '\r') : skipBlanks (c :: cs) = c :: cs := by
  simp [skipBlanks, h₁, h₂, h₃, h₄]

theorem skipBlanks_comma (cs : List Char) : skipBlanks (',' :: cs) = ',' :: cs :=
  skipBlanks_of_ne (by decide) (by decide) (by decide) (by decide)

theorem skipBlanks_skipBlanks (cs : List Char) : skipBlanks (skipBlanks cs) = skipBlanks cs :=
  List.dropWhile_idempotent _ cs

theorem endsNumeral_append {bs : List Char} (h : ∀ c ∈ bs, IsBlank c) {rest : List Char}
    (hrest : EndsNumeral rest) : EndsNumeral (bs ++ rest) := by
  cases bs with
  | nil => exact hrest
  | cons b bs =>
    rcases h b List.mem_cons_self with rfl | rfl | rfl | rfl <;>
      exact endsNumeral_cons rfl (by decide) (by decide) (by decide)

theorem readValue_congr {cs cs' : List Char} (h : skipBlanks cs = skipBlanks cs')
    (fuel levels : Nat) : readValue fuel levels cs = readValue fuel levels cs' := by
  cases fuel with
  | zero => rfl
  | succ fuel => rw [readValue, readValue, h]

theorem readItems_congr {cs cs' : List Char} (h : skipBlanks cs = skipBlanks cs')
    (fuel levels : Nat) : readItems fuel levels cs = readItems fuel levels cs' := by
  cases fuel with
  | zero => rfl
  | succ fuel => rw [readItems, readItems, readValue_congr h]

theorem readMembers_congr {cs cs' : List Char} (h : skipBlanks cs = skipBlanks cs')
    (fuel levels : Nat) : readMembers fuel levels cs = readMembers fuel levels cs' := by
  cases fuel with
  | zero => rfl
  | succ fuel => rw [readMembers, readMembers, h]

theorem read?_head {cs tail : List Char} {n : Numeral} (h : Numeral.read? cs = some (n, tail)) :
    ∃ c rest, cs = c :: rest ∧ ∀ d : Char, d.isDigit = false → d ≠ '-' → c ≠ d := by
  cases cs with
  | nil => simp [Numeral.read?, takeMinus, splitDigits] at h
  | cons c rest =>
    refine ⟨c, rest, rfl, ?_⟩
    rintro c hdigit hminus rfl
    simp [Numeral.read?, takeMinus, hminus, splitDigits, hdigit] at h

theorem readValue_numeral {cs tail : List Char} {n : Numeral} (fuel levels : Nat)
    (h : Numeral.read? cs = some (n, tail)) :
    readValue (fuel + 1) levels cs = (.number n.number?, some tail) := by
  obtain ⟨c, rest, rfl, hne⟩ := read?_head h
  have hblank : skipBlanks (c :: rest) = c :: rest := by simp [skipBlanks, hne]
  rw [readValue, hblank]
  split <;> simp_all

theorem length_flatMap_writeChar (cs : List Char) : cs.length ≤ (cs.flatMap writeChar).length := by
  induction cs with
  | nil => simp
  | cons c cs ih =>
    have hc := List.length_pos_iff.mpr (writeChar_ne_nil c)
    rw [List.flatMap_cons, List.length_append, List.length_cons]
    omega

theorem readString_write (s : String) (rest : List Char) :
    readString ((s.toList.flatMap writeChar ++ '"' :: rest).length + 1) (some [])
      (s.toList.flatMap writeChar ++ '"' :: rest) = some (some s, rest) := by
  have hlength := length_flatMap_writeChar s.toList
  have hfuel : s.toList.length < (s.toList.flatMap writeChar ++ '"' :: rest).length + 1 := by
    rw [List.length_append]
    omega
  rw [readString_writeString s.toList rest _ [] hfuel]
  simp

theorem readValue_array (fuel levels : Nat) {cs : List Char}
    (hcs : (skipBlanks cs).head? ≠ some ']') :
    readValue (fuel + 1) levels ('[' :: cs) =
      (nested levels (.array (readItems fuel (levels - 1) cs).1
        (readItems fuel (levels - 1) cs).2.isSome), (readItems fuel (levels - 1) cs).2) := by
  rw [← readItems_congr (skipBlanks_skipBlanks cs)]
  simp only [readValue, skipBlanks_of_ne, ne_eq, Char.reduceEq, not_false_eq_true]
  generalize skipBlanks cs = ds at hcs
  split
  · simp at hcs
  · rfl

theorem readValue_object (fuel levels : Nat) {cs : List Char}
    (hcs : (skipBlanks cs).head? ≠ some '\x7d') :
    readValue (fuel + 1) levels ('\x7b' :: cs) =
      (nested levels (.object (readMembers fuel (levels - 1) cs).1
        (readMembers fuel (levels - 1) cs).2.isSome), (readMembers fuel (levels - 1) cs).2) := by
  rw [← readMembers_congr (skipBlanks_skipBlanks cs)]
  simp only [readValue, skipBlanks_of_ne, ne_eq, Char.reduceEq, not_false_eq_true]
  generalize skipBlanks cs = ds at hcs
  split
  · simp at hcs
  · rfl

section Item

variable {fuel levels : Nat} {cs rest tail : List Char} {s : Source}
  (h : readValue fuel levels cs = (s, some rest))

include h

theorem readItems_comma (hrest : skipBlanks rest = ',' :: tail) : readItems (fuel + 1) levels cs =
    (s :: (readItems fuel levels tail).1, (readItems fuel levels tail).2) := by
  simp only [readItems, h, hrest]

theorem readItems_bracket (hrest : skipBlanks rest = ']' :: tail) :
    readItems (fuel + 1) levels cs = ([s], some tail) := by
  simp only [readItems, h, hrest]

variable (name : String)

theorem readMembers_comma (hrest : skipBlanks rest = ',' :: tail) :
    readMembers (fuel + 1) levels (writeString name ++ ':' :: cs) =
      ((some name, s) :: (readMembers fuel levels tail).1, (readMembers fuel levels tail).2) := by
  have hname := readString_write name (':' :: cs)
  simp only [writeString, List.cons_append, List.append_assoc, List.nil_append, readMembers,
    skipBlanks_of_ne, ne_eq, Char.reduceEq, not_false_eq_true, hname, h, hrest]

theorem readMembers_brace (hrest : skipBlanks rest = '\x7d' :: tail) :
    readMembers (fuel + 1) levels (writeString name ++ ':' :: cs) =
      ([(some name, s)], some tail) := by
  have hname := readString_write name (':' :: cs)
  simp only [writeString, List.cons_append, List.append_assoc, List.nil_append, readMembers,
    skipBlanks_of_ne, ne_eq, Char.reduceEq, not_false_eq_true, hname, h, hrest]

end Item

section Write

variable {y : Spacing} (hy : y.Blank)

theorem write_head {v : Json} {levels : Nat} (hv : v.Readable levels) (level : Nat) :
    ∃ c cs, write y level v = c :: cs ∧ (∀ rest, skipBlanks (c :: rest) = c :: rest) ∧ c ≠ ']' := by
  cases v with
  | null => simp [write, skipBlanks]
  | bool b => cases b <;> simp [write, writeBool, skipBlanks]
  | number n =>
    obtain ⟨m, hread⟩ : n.Readable := hv
    obtain ⟨c, cs, hcs, hne⟩ := read?_head hread
    exact ⟨c, cs, by rw [write, hcs], by simp [skipBlanks, hne], hne _ rfl (by decide)⟩
  | string s => simp [write, writeString, skipBlanks]
  | array items => cases items <;> simp [write, skipBlanks]
  | object members => cases members <;> simp [write, skipBlanks]

theorem length_write_pos {v : Json} {levels : Nat} (hv : v.Readable levels) (level : Nat) :
    0 < (write y level v).length := by
  obtain ⟨c, cs, hcs, -⟩ := write_head (y := y) hv level
  simp [hcs]

theorem writeItems_cons (level : Nat) (v : Json) (items : List Json) :
    ∃ tail, writeItems y level (v :: items) = y.lineAt level ++ (write y level v ++ tail) := by
  cases items with
  | nil => exact ⟨[], by simp [writeItems]⟩
  | cons w items => exact ⟨',' :: writeItems y level (w :: items), by simp [writeItems]⟩

include hy

theorem skipBlanks_writeItems {v : Json} {levels : Nat} (hv : v.Readable levels) (level : Nat)
    (items : List Json) (rest : List Char) :
    (skipBlanks (writeItems y level (v :: items) ++ rest)).head? ≠ some ']' := by
  obtain ⟨tail, htail⟩ := writeItems_cons (y := y) level v items
  obtain ⟨c, cs, hcs, hblank, hc⟩ := write_head (y := y) hv level
  rw [htail, List.append_assoc, skipBlanks_append (hy.lineAt level), hcs, List.cons_append,
    List.cons_append, hblank]
  simpa using hc

theorem skipBlanks_writeMembers (level : Nat) (m : String × Json) (members : List (String × Json))
    (rest : List Char) :
    (skipBlanks (writeMembers y level (m :: members) ++ rest)).head? = some '"' := by
  cases members <;>
    simp [writeMembers, writeString, skipBlanks_append (hy.lineAt level), skipBlanks_of_ne]

mutual

/-- A reader takes exactly the text of a value from what is before it. -/
theorem readValue_write (level fuel levels : Nat) (rest : List Char) (hrest : EndsNumeral rest) :
    ∀ v : Json, v.Readable levels → 2 * (write y level v).length ≤ fuel →
      readValue fuel levels (write y level v ++ rest) = (v.reread, some rest)
  | v, hv, hfuel => by
    obtain ⟨fuel, rfl⟩ : ∃ n, fuel = n + 1 :=
      ⟨fuel - 1, by have := length_write_pos (y := y) hv level; omega⟩
    cases v with
    | null => simp [write, readValue, skipBlanks, readWord, reread]
    | bool b => cases b <;> simp [write, writeBool, readValue, skipBlanks, readWord, reread]
    | number n =>
      obtain ⟨m, hread⟩ : n.Readable := hv
      rw [write, readValue_numeral fuel levels (read?_append hrest hread), reread,
        Number.reread?_eq hread, List.nil_append]
    | string s =>
      have h := readString_write s rest
      simp only [write, writeString, List.cons_append, List.append_assoc, List.nil_append,
        readValue, skipBlanks_of_ne, ne_eq, Char.reduceEq, not_false_eq_true, h, reread]
    | array items =>
      obtain ⟨hlevels, hitems⟩ := hv
      cases items with
      | nil => simp [write, readValue, skipBlanks, nested, hlevels, reread, rereadItems]
      | cons v items =>
        have h := readItems_write (level + 1) fuel (levels - 1) (hy.lineAt level) rest v items
          hitems (by simp [write] at hfuel ⊢; omega)
        simp only [write, List.cons_append, List.append_assoc, List.nil_append]
        rw [readValue_array fuel levels (skipBlanks_writeItems hy hitems.1 _ items _), h]
        simp [nested, hlevels, reread]
    | object members =>
      obtain ⟨hlevels, hmembers⟩ := hv
      cases members with
      | nil => simp [write, readValue, skipBlanks, nested, hlevels, reread, rereadMembers]
      | cons m members =>
        have h := readMembers_write (level + 1) fuel (levels - 1) (hy.lineAt level) rest m members
          hmembers (by simp [write] at hfuel ⊢; omega)
        simp only [write, List.cons_append, List.append_assoc, List.nil_append]
        rw [readValue_object fuel levels (by simp [skipBlanks_writeMembers hy]), h]
        simp [nested, hlevels, reread]

theorem readItems_write (level fuel levels : Nat) {bs : List Char} (hbs : ∀ c ∈ bs, IsBlank c)
    (rest : List Char) : ∀ (v : Json) (items : List Json),
      WithinItems levels Number.Readable (v :: items) →
      2 * (writeItems y level (v :: items)).length + 1 ≤ fuel →
      readItems fuel levels (writeItems y level (v :: items) ++ (bs ++ ']' :: rest)) =
        (rereadItems (v :: items), some rest)
  | v, items, hitems, hfuel => by
    obtain ⟨fuel, rfl⟩ : ∃ n, fuel = n + 1 := ⟨fuel - 1, by omega⟩
    have hvalue (rest : List Char) (hrest : EndsNumeral rest) :
        readValue fuel levels (y.lineAt level ++ (write y level v ++ rest)) =
          (v.reread, some rest) := by
      rw [readValue_congr (skipBlanks_append (hy.lineAt level) _)]
      refine readValue_write level fuel levels rest hrest v hitems.1 ?_
      obtain ⟨tail, htail⟩ := writeItems_cons (y := y) level v items
      rw [htail] at hfuel
      simp at hfuel
      omega
    cases items with
    | nil =>
      have hend : EndsNumeral (']' :: rest) :=
        endsNumeral_cons rfl (by decide) (by decide) (by decide)
      have hbracket : skipBlanks (bs ++ ']' :: rest) = ']' :: rest := by
        rw [skipBlanks_append hbs, skipBlanks_of_ne] <;> decide
      rw [writeItems, List.append_assoc,
        readItems_bracket (hvalue _ (endsNumeral_append hbs hend)) hbracket]
      rfl
    | cons w items =>
      have hrest := readItems_write level fuel levels hbs rest w items hitems.2
        (by simp [writeItems] at hfuel ⊢; omega)
      have hend : EndsNumeral (',' :: (writeItems y level (w :: items) ++ (bs ++ ']' :: rest))) :=
        endsNumeral_cons rfl (by decide) (by decide) (by decide)
      simp only [writeItems, List.append_assoc, List.cons_append]
      rw [readItems_comma (hvalue _ hend) (skipBlanks_comma _), hrest]
      rfl

theorem readMembers_write (level fuel levels : Nat) {bs : List Char} (hbs : ∀ c ∈ bs, IsBlank c)
    (rest : List Char) : ∀ (m : String × Json) (members : List (String × Json)),
      WithinMembers levels Number.Readable (m :: members) →
      2 * (writeMembers y level (m :: members)).length + 1 ≤ fuel →
      readMembers fuel levels (writeMembers y level (m :: members) ++ (bs ++ '\x7d' :: rest)) =
        (rereadMembers (m :: members), some rest)
  | (name, v), members, hmembers, hfuel => by
    obtain ⟨fuel, rfl⟩ : ∃ n, fuel = n + 1 := ⟨fuel - 1, by omega⟩
    have hvalue (rest : List Char) (hrest : EndsNumeral rest) :
        readValue fuel levels (y.gap ++ (write y level v ++ rest)) = (v.reread, some rest) := by
      rw [readValue_congr (skipBlanks_append hy.gap _)]
      refine readValue_write level fuel levels rest hrest v hmembers.1 ?_
      cases members <;> simp [writeMembers] at hfuel <;> omega
    have hline (cs : List Char) : readMembers (fuel + 1) levels (y.lineAt level ++ cs) =
        readMembers (fuel + 1) levels cs :=
      readMembers_congr (skipBlanks_append (hy.lineAt level) cs) _ _
    cases members with
    | nil =>
      have hend : EndsNumeral ('\x7d' :: rest) :=
        endsNumeral_cons rfl (by decide) (by decide) (by decide)
      have hbrace : skipBlanks (bs ++ '\x7d' :: rest) = '\x7d' :: rest := by
        rw [skipBlanks_append hbs, skipBlanks_of_ne] <;> decide
      simp only [writeMembers, List.append_assoc, List.cons_append]
      rw [hline, readMembers_brace (hvalue _ (endsNumeral_append hbs hend)) name hbrace]
      rfl
    | cons m members =>
      have hrest := readMembers_write level fuel levels hbs rest m members hmembers.2
        (by simp [writeMembers] at hfuel ⊢; omega)
      have hend : EndsNumeral (',' :: (writeMembers y level (m :: members) ++
          (bs ++ '\x7d' :: rest))) :=
        endsNumeral_cons rfl (by decide) (by decide) (by decide)
      simp only [writeMembers, List.append_assoc, List.cons_append]
      rw [hline, readMembers_comma (hvalue _ hend) name (skipBlanks_comma _), hrest]
      rfl

end

theorem readText_write {v : Json} (hv : v.Readable 127) :
    readText (.ofList (write y 0 v)) = ⟨v.reread, true⟩ := by
  have h := readValue_write hy 0 (2 * (write y 0 v).length + 2) 127 [] endsNumeral_nil v hv
    (by omega)
  rw [List.append_nil] at h
  simp [readText, h, skipBlanks]

end Write

theorem readText_compact {v : Json} (hv : v.Legible 127) :
    readText v.compact = ⟨.ofJson v, true⟩ := by
  rw [← reread_eq hv]
  exact readText_write blank_none (hv.mono fun _ ↦ Number.Legible.readable)

end Json

end TradingRules
