import Mathlib.Data.List.TakeWhile
import TradingRules.Binary64.Numeral
import TradingRules.Proofs.Text.LetterCase

namespace TradingRules.Binary64

inductive SpellsWhole : List Char → Int → Prop
  | plain {ds : List Char} (hne : ds ≠ []) (hds : ∀ c ∈ ds, c.isDigit) :
      SpellsWhole ds (Nat.ofDigitChars 10 ds 0)
  | plus {ds : List Char} (hne : ds ≠ []) (hds : ∀ c ∈ ds, c.isDigit) :
      SpellsWhole ('+' :: ds) (Nat.ofDigitChars 10 ds 0)
  | minus {ds : List Char} (hne : ds ≠ []) (hds : ∀ c ∈ ds, c.isDigit) :
      SpellsWhole ('-' :: ds) (-Nat.ofDigitChars 10 ds 0)

inductive SpellsExponent : List Char → Int → Prop
  | absent : SpellsExponent [] 0
  | small {cs : List Char} {e : Int} (h : SpellsWhole cs e) : SpellsExponent ('e' :: cs) e
  | capital {cs : List Char} {e : Int} (h : SpellsWhole cs e) : SpellsExponent ('E' :: cs) e

/-- Digits, at least one of them, around an optional point, with the number that all digits make and
how many of them stand behind the point. -/
inductive SpellsDigits : List Char → Nat → Nat → Prop
  | whole {ds : List Char} (hne : ds ≠ []) (hds : ∀ c ∈ ds, c.isDigit) :
      SpellsDigits ds (Nat.ofDigitChars 10 ds 0) 0
  | point {ds fs : List Char} (hne : ds ++ fs ≠ []) (hds : ∀ c ∈ ds ++ fs, c.isDigit) :
      SpellsDigits (ds ++ '.' :: fs) (Nat.ofDigitChars 10 (ds ++ fs) 0) fs.length

inductive SpellsUnsigned (negative : Bool) : List Char → Binary64 → Prop
  | nan {cs : List Char} (h : cs.map Char.toLower = ['n', 'a', 'n']) :
      SpellsUnsigned negative cs .nan
  | inf {cs : List Char} (h : cs.map Char.toLower = ['i', 'n', 'f']) :
      SpellsUnsigned negative cs (.infinite negative)
  | infinity {cs : List Char} (h : cs.map Char.toLower = ['i', 'n', 'f', 'i', 'n', 'i', 't', 'y']) :
      SpellsUnsigned negative cs (.infinite negative)
  | decimal {cs rest : List Char} {n scale : Nat} {e : Int} (hcs : SpellsDigits cs n scale)
      (hrest : SpellsExponent rest e) :
      SpellsUnsigned negative (cs ++ rest) (ofDecimal negative n (e - scale))

/-- A text of these characters spells a number. -/
inductive Spells : List Char → Binary64 → Prop
  | plain {cs : List Char} {x : Binary64} (h : SpellsUnsigned false cs x) : Spells cs x
  | plus {cs : List Char} {x : Binary64} (h : SpellsUnsigned false cs x) : Spells ('+' :: cs) x
  | minus {cs : List Char} {x : Binary64} (h : SpellsUnsigned true cs x) : Spells ('-' :: cs) x

theorem digitsValue?_eq (cs : List Char) : digitsValue? cs =
    if cs.all Char.isDigit then some (Nat.ofDigitChars 10 cs 0) else none :=
  rfl

theorem digitsValue?_eq_some_iff {cs : List Char} {n : Nat} :
    digitsValue? cs = some n ↔ (∀ c ∈ cs, c.isDigit) ∧ Nat.ofDigitChars 10 cs 0 = n := by
  rw [digitsValue?_eq, ← List.all_eq_true]
  split
  · next hcs => exact Option.some_inj.trans (and_iff_right hcs).symm
  · next hcs => exact iff_of_false nofun fun h ↦ hcs h.1

theorem map_digitsValue?_eq_some_iff {cs : List Char} {f : Int → Int} {e : Int} :
    Option.map f (do return ((← digitsValue? cs) : Int)) = some e ↔
      (∀ c ∈ cs, c.isDigit) ∧ f (Nat.ofDigitChars 10 cs 0) = e := by
  rw [digitsValue?_eq, ← List.all_eq_true]
  split
  · next hcs => exact Option.some_inj.trans (and_iff_right hcs).symm
  · next hcs => exact iff_of_false nofun fun h ↦ hcs h.1

theorem signedDigits?_eq_some_iff {cs : List Char} {e : Int} :
    signedDigits? cs = some e ↔ SpellsWhole cs e := by
  constructor
  · intro h
    unfold signedDigits? at h
    split at h
    · cases h
    · split at h
      · cases h
      · next hne =>
        obtain ⟨hds, rfl⟩ := map_digitsValue?_eq_some_iff.mp h
        exact .minus hne hds
    · split at h
      · cases h
      · next hne =>
        obtain ⟨hds, rfl⟩ := map_digitsValue?_eq_some_iff.mp h
        exact .plus hne hds
    · next hne _ _ =>
      obtain ⟨hds, rfl⟩ := map_digitsValue?_eq_some_iff.mp h
      exact .plain hne hds
  · intro h
    cases h with
    | plain hne hds =>
      have hsign (d : Char) (hd : d.isDigit = false) (ds : List Char) : cs ≠ d :: ds := by
        rintro rfl
        exact Text.ne_of_isDigit (hds d List.mem_cons_self) hd rfl
      rw [signedDigits?, map_digitsValue?_eq_some_iff.mpr ⟨hds, rfl⟩]
      · exact hne
      · exact hsign '-' (by decide)
      · exact hsign '+' (by decide)
    | plus hne hds =>
      rw [signedDigits?, if_neg hne, map_digitsValue?_eq_some_iff.mpr ⟨hds, rfl⟩]
    | minus hne hds =>
      rw [signedDigits?, if_neg hne, map_digitsValue?_eq_some_iff.mpr ⟨hds, rfl⟩]

theorem cut_iff {α : Type} (p : α → Bool) {as xs ys : List α} :
    as.takeWhile p = xs ∧ as.dropWhile p = ys ↔
      as = xs ++ ys ∧ (∀ a ∈ xs, p a) ∧ ∀ a ∈ ys.head?, p a = false := by
  constructor
  · rintro ⟨rfl, rfl⟩
    refine ⟨List.takeWhile_append_dropWhile.symm, fun a ha ↦ List.mem_takeWhile_imp ha, ?_⟩
    intro a ha
    have hstop := List.head?_dropWhile_not p as
    rwa [Option.mem_def.mp ha] at hstop
  · rintro ⟨rfl, hxs, hys⟩
    rw [List.takeWhile_append_of_pos hxs, List.dropWhile_append_of_pos hxs]
    cases ys with
    | nil => simp
    | cons a ys => simp [hys a rfl]

def isMark (c : Char) : Bool :=
  c = 'e' || c = 'E'

theorem splitExponent?_eq (cs : List Char) : splitExponent? cs =
    match cs.dropWhile (!isMark ·) with
    | [] => some (cs, 0)
    | _ :: rest => (signedDigits? rest).map fun e ↦ (cs.takeWhile (!isMark ·), e) :=
  rfl

theorem splitExponent?_eq_some_iff {cs body : List Char} {e : Int} :
    splitExponent? cs = some (body, e) ↔
      ∃ rest, cs = body ++ rest ∧ (∀ c ∈ body, isMark c = false) ∧ SpellsExponent rest e := by
  rw [splitExponent?_eq]
  constructor
  · intro h
    obtain ⟨hcs, hbody, hhead⟩ := (cut_iff (!isMark ·)).mp ⟨rfl, rfl⟩
    have hbody : ∀ c ∈ cs.takeWhile (!isMark ·), isMark c = false := by simpa using hbody
    generalize cs.dropWhile (!isMark ·) = rest at h hcs hhead
    cases rest with
    | nil =>
      obtain ⟨rfl, rfl⟩ := Prod.mk.inj (Option.some.inj h)
      rw [List.append_nil] at hcs
      exact ⟨[], (List.append_nil _).symm, hcs ▸ hbody, .absent⟩
    | cons c rest =>
      obtain ⟨e, he, heq⟩ := Option.map_eq_some_iff.mp h
      obtain ⟨rfl, rfl⟩ := Prod.mk.inj heq
      have hwhole := signedDigits?_eq_some_iff.mp he
      refine ⟨c :: rest, hcs, hbody, ?_⟩
      have hmark : isMark c = true := by simpa using hhead c rfl
      rw [isMark, Bool.or_eq_true, decide_eq_true_iff, decide_eq_true_iff] at hmark
      obtain rfl | rfl := hmark
      · exact .small hwhole
      · exact .capital hwhole
  · rintro ⟨rest, hcs, hbody, hrest⟩
    have hhead : ∀ c ∈ rest.head?, isMark c := by
      intro c hc
      cases hrest with
      | absent => cases hc
      | small | capital =>
        obtain rfl := Option.some.inj hc
        rfl
    obtain ⟨htake, hdrop⟩ := (cut_iff (!isMark ·)).mpr
      ⟨hcs, fun c hc ↦ by simp [hbody c hc], fun c hc ↦ by simp [hhead c hc]⟩
    rw [htake, hdrop]
    cases hrest with
    | absent => rw [hcs, List.append_nil]
    | small hwhole | capital hwhole => simp [signedDigits?_eq_some_iff.mpr hwhole]

def digits? (body : List Char) : Option (Nat × Nat) :=
  let whole := body.takeWhile (· ≠ '.')
  let fraction := (body.dropWhile (· ≠ '.')).drop 1
  if whole = [] ∧ fraction = [] then none
  else (digitsValue? (whole ++ fraction)).map (·, fraction.length)

theorem digits?_eq_some_iff {body : List Char} {n scale : Nat} :
    digits? body = some (n, scale) ↔ SpellsDigits body n scale := by
  constructor
  · intro h
    rw [digits?] at h
    obtain ⟨hbody, -, hhead⟩ := (cut_iff (· ≠ '.')).mp ⟨rfl, rfl⟩
    generalize body.takeWhile (· ≠ '.') = ds at h hbody
    generalize body.dropWhile (· ≠ '.') = rest at h hbody hhead
    split at h
    · cases h
    next hne =>
    obtain ⟨n, hn, heq⟩ := Option.map_eq_some_iff.mp h
    obtain ⟨rfl, rfl⟩ := Prod.mk.inj heq
    obtain ⟨hds, rfl⟩ := digitsValue?_eq_some_iff.mp hn
    cases rest with
    | nil =>
      rw [List.append_nil] at hbody
      rw [List.drop_nil, List.append_nil] at hds ⊢
      rw [hbody]
      exact .whole (by simpa using hne) hds
    | cons c fs =>
      obtain rfl : c = '.' := by simpa using hhead c rfl
      rw [hbody]
      exact .point (by simpa using hne) hds
  · intro h
    cases h with
    | whole hne hds =>
      have hpoint : ∀ c ∈ body, c ≠ '.' := fun c hc ↦ Text.ne_of_isDigit (hds c hc) (by decide)
      obtain ⟨htake, hdrop⟩ := (cut_iff (· ≠ '.')).mpr
        ⟨(List.append_nil body).symm, fun c hc ↦ decide_eq_true (hpoint c hc), by simp⟩
      rw [digits?, htake, hdrop]
      simp [hne, digitsValue?_eq_some_iff.mpr ⟨hds, rfl⟩]
    | @point ds fs hne hds =>
      have hleft : ∀ c ∈ ds, c ≠ '.' := by
        intro c hc
        exact Text.ne_of_isDigit (hds c (List.mem_append_left _ hc)) (by decide)
      have hright : ∀ c ∈ ('.' :: fs).head?, decide (c ≠ '.') = false := by simp
      obtain ⟨htake, hdrop⟩ := (cut_iff (· ≠ '.')).mpr
        ⟨rfl, fun c hc ↦ decide_eq_true (hleft c hc), hright⟩
      have hne : ¬ (ds = [] ∧ fs = []) := by simpa using hne
      rw [digits?, htake, hdrop]
      simp [hne, digitsValue?_eq_some_iff.mpr ⟨hds, rfl⟩]

theorem decimal?_eq (cs : List Char) : decimal? cs = do
    let (body, e) ← splitExponent? cs
    let (n, scale) ← digits? body
    return (n, e - scale) := by
  unfold decimal? digits?
  cases splitExponent? cs with
  | none => rfl
  | some parts =>
    obtain ⟨body, e⟩ := parts
    dsimp only [Option.bind_eq_bind, Option.bind_some]
    split
    · rfl
    · cases digitsValue? _ <;> rfl

theorem SpellsDigits.chars {cs : List Char} {n scale : Nat} (h : SpellsDigits cs n scale) :
    cs ≠ [] ∧ ∀ c ∈ cs, c.isDigit ∨ c = '.' := by
  cases h with
  | whole hne hds => exact ⟨hne, fun c hc ↦ .inl (hds c hc)⟩
  | point hne hds =>
    refine ⟨by simp, fun c hc ↦ ?_⟩
    rw [List.mem_append, List.mem_cons, or_left_comm, ← List.mem_append] at hc
    exact hc.symm.imp_left (hds c)

theorem decimal?_eq_some_iff {cs : List Char} {n : Nat} {e : Int} : decimal? cs = some (n, e) ↔
    ∃ body rest scale exponent, cs = body ++ rest ∧ SpellsDigits body n scale ∧
      SpellsExponent rest exponent ∧ exponent - scale = e := by
  rw [decimal?_eq]
  constructor
  · intro h
    obtain ⟨⟨body, exponent⟩, hsplit, h⟩ := Option.bind_eq_some_iff.mp h
    obtain ⟨⟨n, scale⟩, hdigits, h⟩ := Option.bind_eq_some_iff.mp h
    obtain ⟨rfl, rfl⟩ := Prod.mk.inj (Option.some.inj h)
    obtain ⟨rest, hcs, -, hrest⟩ := splitExponent?_eq_some_iff.mp hsplit
    exact ⟨body, rest, scale, exponent, hcs, digits?_eq_some_iff.mp hdigits, hrest, rfl⟩
  · rintro ⟨body, rest, scale, exponent, hcs, hbody, hrest, rfl⟩
    have hmark : ∀ c ∈ body, isMark c = false := by
      intro c hc
      obtain hdigit | rfl := hbody.chars.2 c hc
      · simp [isMark, Text.ne_of_isDigit hdigit (d := 'e'), Text.ne_of_isDigit hdigit (d := 'E')]
      · rfl
    rw [splitExponent?_eq_some_iff.mpr ⟨rest, hcs, hmark, hrest⟩]
    simp [digits?_eq_some_iff.mpr hbody]

theorem SpellsDigits.head {body : List Char} {n scale : Nat} (h : SpellsDigits body n scale)
    {d : Char} (hd : d.isDigit = false ∧ d ≠ '.') (rest ds : List Char) :
    body ++ rest ≠ d :: ds ∧ (body ++ rest).map Char.toLower ≠ d :: ds := by
  obtain ⟨hne, hchars⟩ := h.chars
  obtain ⟨c, body, rfl⟩ := List.exists_cons_of_ne_nil hne
  have hc : c ≠ d ∧ c.toLower = c := by
    obtain hdigit | rfl := hchars c List.mem_cons_self
    · exact ⟨Text.ne_of_isDigit hdigit hd.1, Text.toLower_of_isDigit hdigit⟩
    · exact ⟨hd.2.symm, rfl⟩
  constructor
  · intro heq
    exact hc.1 (List.cons.inj heq).1
  · intro heq
    exact hc.1 (hc.2.symm.trans (List.cons.inj heq).1)

theorem unsigned?_eq_some_iff {negative : Bool} {cs : List Char} {x : Binary64} :
    unsigned? negative cs = some x ↔ SpellsUnsigned negative cs x := by
  constructor
  · intro h
    unfold unsigned? at h
    dsimp only at h
    split at h
    · next hnan =>
      obtain rfl := Option.some.inj h
      exact .nan hnan
    split at h
    · next hinfinite =>
      obtain rfl := Option.some.inj h
      exact hinfinite.elim .inf .infinity
    · obtain ⟨⟨n, e⟩, hdecimal, rfl⟩ := Option.map_eq_some_iff.mp h
      obtain ⟨body, rest, scale, exponent, rfl, hbody, hrest, rfl⟩ :=
        decimal?_eq_some_iff.mp hdecimal
      exact .decimal hbody hrest
  · intro h
    cases h with
    | nan h => simp [unsigned?, h]
    | inf h | infinity h => simp [unsigned?, h]
    | @decimal body rest n scale e hbody hrest =>
      have hdecimal := decimal?_eq_some_iff.mpr ⟨body, rest, scale, e, rfl, hbody, hrest, rfl⟩
      have hn (ds : List Char) := (hbody.head (d := 'n') (by decide) rest ds).2
      have hi (ds : List Char) := (hbody.head (d := 'i') (by decide) rest ds).2
      rw [unsigned?, if_neg (hn _), if_neg (not_or.mpr ⟨hi _, hi _⟩), hdecimal]
      rfl

theorem SpellsUnsigned.head {negative : Bool} {cs : List Char} {x : Binary64}
    (h : SpellsUnsigned negative cs x) (rest : List Char) :
    cs ≠ '-' :: rest ∧ cs ≠ '+' :: rest := by
  cases h with
  | nan h | inf h | infinity h =>
    constructor <;>
    · rintro rfl
      exact absurd (List.cons.inj h).1 (by decide)
  | @decimal body tail n scale e hbody hrest =>
    exact ⟨(hbody.head (by decide) tail rest).1, (hbody.head (by decide) tail rest).1⟩

/-- A text is read as a number exactly if it spells that number. -/
theorem ofNumeral?_eq_some_iff {s : String} {x : Binary64} :
    ofNumeral? s = some x ↔ Spells s.toList x := by
  constructor
  · intro h
    unfold ofNumeral? at h
    split at h
    · next rest hs =>
      rw [hs]
      exact .minus (unsigned?_eq_some_iff.mp h)
    · next rest hs =>
      rw [hs]
      exact .plus (unsigned?_eq_some_iff.mp h)
    · exact .plain (unsigned?_eq_some_iff.mp h)
  · intro h
    generalize hs : s.toList = cs at h
    cases h with
    | plain h =>
      rw [ofNumeral?, hs]
      split
      · exact absurd rfl (h.head _).1
      · exact absurd rfl (h.head _).2
      · exact unsigned?_eq_some_iff.mpr h
    | plus h | minus h =>
      rw [ofNumeral?, hs]
      exact unsigned?_eq_some_iff.mpr h

end TradingRules.Binary64
