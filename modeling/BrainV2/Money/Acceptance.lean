import BrainV2.Money.LibMetrics

/-!
# Which texts lib-metrics converts

The pieces of an amount are left to `BigInt`, and what is cut off to a comparison of texts.

* `IsNumeral`: a decimal numeral;
* `Disguised`: a piece that `BigInt` reads although it is no row of digits;
* `accepts_iff`: what the conversion takes, from the pieces;
* `isNumeral_iff`: a numeral, from the same pieces;
* `acceptsNumerals_iff`: a text is refused unless it is a numeral, apart from the loopholes.
-/

namespace BrainV2.LibMetrics

open Binary64 (Double)
open Js (bigInt bigIntOfNumber numberText trim)
open Money (AmountText)

/-! ### What `BigInt` reads -/

def Plain (cs : List Char) : Prop := ∀ c ∈ cs, c.isDigit = true

instance (cs : List Char) : Decidable (Plain cs) :=
  decidable_of_iff (cs.all Char.isDigit = true) List.all_eq_true

/-- The base that a letter behind a zero stands for. -/
def radixOf (c : Char) : Option Nat :=
  if c = 'x' ∨ c = 'X' then some 16
  else if c = 'o' ∨ c = 'O' then some 8
  else if c = 'b' ∨ c = 'B' then some 2
  else none

/-- Digits with a sign in front of them. -/
def Signed : List Char → Prop
  | c :: ds => (c = '+' ∨ c = '-') ∧ Plain ds ∧ ds ≠ []
  | [] => False

/-- Digits of a base with its mark in front of them. -/
def Prefixed : List Char → Prop
  | '0' :: c :: ds => ∃ base, radixOf c = some base ∧ (Js.radixDigits base ds).isSome = true
  | _ => False

/-- Blanks, digits between blanks, a sign or the mark of a base. -/
def Disguised (cs : List Char) : Prop :=
  (trim cs = [] ∧ cs ≠ []) ∨ (trim cs ≠ cs ∧ trim cs ≠ [] ∧ Plain (trim cs)) ∨
    Signed (trim cs) ∨ Prefixed (trim cs)

theorem decimalDigits_isSome {cs : List Char} :
    (Js.decimalDigits cs).isSome = true ↔ Plain cs ∧ cs ≠ [] := by
  unfold Js.decimalDigits Plain
  split
  · next h => exact iff_of_true rfl ⟨by simpa using h.2, h.1⟩
  · next h => exact iff_of_false Bool.false_ne_true fun h' => h ⟨h'.2, by simpa using h'.1⟩

theorem trim_of_plain {cs : List Char} (h : Plain cs) : trim cs = cs := Js.trim_digits h

/-- The forms that `BigInt` looks for in a trimmed text. -/
def Readable (t : List Char) : Prop := t = [] ∨ (Plain t ∧ t ≠ []) ∨ Signed t ∨ Prefixed t

theorem not_plain_cons {c : Char} {cs : List Char} (h : c.isDigit = false) : ¬ Plain (c :: cs) := by
  intro hplain
  rw [hplain c List.mem_cons_self] at h
  cases h

theorem readable_prefix {c : Char} {base : Nat} {ds : List Char} (hbase : radixOf c = some base)
    (hc : c.isDigit = false) :
    Readable ('0' :: c :: ds) ↔ (Js.radixDigits base ds).isSome = true := by
  constructor
  · rintro (h | ⟨h, -⟩ | ⟨h | h, -⟩ | ⟨base', hbase', h⟩)
    · cases h
    · exact absurd (fun d hd => h d (List.mem_cons_of_mem _ hd)) (not_plain_cons hc)
    · cases h
    · cases h
    · rw [hbase] at hbase'
      cases hbase'
      exact h
  · exact fun h => Or.inr (Or.inr (Or.inr ⟨base, hbase, h⟩))

theorem readable_sign {c : Char} {ds : List Char} (hc : c = '+' ∨ c = '-') :
    Readable (c :: ds) ↔ Plain ds ∧ ds ≠ [] := by
  have hdigit : c.isDigit = false := by
    cases hc with
    | inl h => rw [h]; rfl
    | inr h => rw [h]; rfl
  constructor
  · rintro (h | ⟨h, -⟩ | ⟨-, h⟩ | h)
    · cases h
    · exact absurd h (not_plain_cons hdigit)
    · exact h
    · cases hc with
      | inl hc => rw [hc] at h; exact h.elim
      | inr hc => rw [hc] at h; exact h.elim
  · exact fun h => Or.inr (Or.inr (Or.inl ⟨hc, h⟩))

theorem not_signed {t : List Char} (hplus : ∀ ds, t = '+' :: ds → False)
    (hminus : ∀ ds, t = '-' :: ds → False) : ¬ Signed t := by
  intro h
  cases t with
  | nil => exact h
  | cons c ds =>
    cases h.1 with
    | inl hc => exact hplus ds (by rw [hc])
    | inr hc => exact hminus ds (by rw [hc])

theorem not_prefixed {t : List Char} (hx : ∀ ds, t = '0' :: 'x' :: ds → False)
    (hX : ∀ ds, t = '0' :: 'X' :: ds → False) (ho : ∀ ds, t = '0' :: 'o' :: ds → False)
    (hO : ∀ ds, t = '0' :: 'O' :: ds → False) (hb : ∀ ds, t = '0' :: 'b' :: ds → False)
    (hB : ∀ ds, t = '0' :: 'B' :: ds → False) : ¬ Prefixed t := by
  unfold Prefixed
  split
  · next c ds =>
    rintro ⟨base, hbase, -⟩
    unfold radixOf at hbase
    split_ifs at hbase with h16 h8 h2
    · rcases h16 with rfl | rfl
      · exact hx ds rfl
      · exact hX ds rfl
    · rcases h8 with rfl | rfl
      · exact ho ds rfl
      · exact hO ds rfl
    · rcases h2 with rfl | rfl
      · exact hb ds rfl
      · exact hB ds rfl
  · exact id

theorem bigInt_isSome_iff (cs : List Char) : (bigInt cs).isSome = true ↔ Readable (trim cs) := by
  unfold bigInt
  split
  case h_1 htrim => simp [htrim, Readable]
  case h_8 ds htrim =>
    rw [htrim, readable_sign (Or.inl rfl), ← decimalDigits_isSome]
    simp
  case h_9 ds htrim =>
    rw [htrim, readable_sign (Or.inr rfl), ← decimalDigits_isSome]
    cases Js.decimalDigits ds <;> simp
  case h_10 t hnil hx hX ho hO hb hB hplus hminus =>
    have hdecimal : (Js.decimalDigits (trim cs)).isSome = true ↔ Plain (trim cs) ∧ trim cs ≠ [] :=
      decimalDigits_isSome
    rw [Option.isSome_map, hdecimal]
    constructor
    · exact fun h => Or.inr (Or.inl h)
    · rintro (h | h | h | h)
      · exact (hnil h).elim
      · exact h
      · exact (not_signed hplus hminus h).elim
      · exact (not_prefixed hx hX ho hO hb hB h).elim
  all_goals
    rename_i htrim
    rw [htrim, readable_prefix rfl rfl]
    simp

theorem Disguised.not_plain {cs : List Char} (h : Disguised cs) : ¬ Plain cs := by
  intro hplain
  have htrim := trim_of_plain hplain
  rw [Disguised, htrim] at h
  rcases h with h | h | h | h
  · exact h.2 h.1
  · exact h.1 rfl
  · cases cs with
    | nil => exact h
    | cons c ds =>
      have hdigit := hplain c List.mem_cons_self
      rcases h.1 with rfl | rfl <;> cases hdigit
  · unfold Prefixed at h
    split at h
    · next c ds =>
      obtain ⟨base, hbase, -⟩ := h
      have hdigit := hplain c (by simp)
      unfold radixOf at hbase
      split_ifs at hbase with h16 h8 h2
      · rcases h16 with rfl | rfl <;> cases hdigit
      · rcases h8 with rfl | rfl <;> cases hdigit
      · rcases h2 with rfl | rfl <;> cases hdigit
    · exact h

/-- A row of digits, which may be empty, or something in its place. -/
theorem bigInt_reads_iff (cs : List Char) :
    (bigInt cs).isSome = true ↔ Plain cs ∨ Disguised cs := by
  rw [bigInt_isSome_iff]
  constructor
  · rintro (h | ⟨h, hne⟩ | h | h)
    · by_cases hnil : cs = []
      · left
        rw [hnil]
        exact fun c hc => nomatch hc
      · exact Or.inr (Or.inl ⟨h, hnil⟩)
    · by_cases heq : trim cs = cs
      · rw [heq] at h
        exact Or.inl h
      · exact Or.inr (Or.inr (Or.inl ⟨heq, hne, h⟩))
    · exact Or.inr (Or.inr (Or.inr (Or.inl h)))
    · exact Or.inr (Or.inr (Or.inr (Or.inr h)))
  · rintro (h | h | h | h | h)
    · rw [trim_of_plain h]
      by_cases hnil : cs = []
      · exact Or.inl hnil
      · exact Or.inr (Or.inl ⟨h, hnil⟩)
    · exact Or.inl h.1
    · exact Or.inr (Or.inl ⟨h.2.2, h.2.1⟩)
    · exact Or.inr (Or.inr (Or.inl h))
    · exact Or.inr (Or.inr (Or.inr h))

/-! ### The pieces of an amount -/

def behindSign (t : List Char) : List Char :=
  if t.head? = some '-' ∨ t.head? = some '+' then t.drop 1 else t

/-- `integerStr` -/
def wholePart (t : List Char) : List Char := (behindSign t).takeWhile (· ≠ '.')

/-- `fracStr` -/
def fractionPart (t : List Char) : List Char := ((behindSign t).dropWhile (· ≠ '.')).drop 1

/-- `subunitDigits` -/
def keptPart (exponent : Nat) (t : List Char) : List Char :=
  let kept := (fractionPart t).take exponent
  kept ++ List.replicate (exponent - kept.length) '0'

/-- A sign, if any, and digits with at most one point before, between or behind them. -/
def IsNumeral (t : List Char) : Prop := ∃ a : AmountText, a.chars = t

/-- `subunitMultiplier.toString().length - 1` -/
def exponentOf (multiplier : Double) : Nat := (numberText multiplier).length - 1

/-- The text is converted to some integer. -/
def Accepts (amount : String) (multiplier : Double) : Prop :=
  ∃ n, decimalToMinorUnits amount multiplier = .ok n

theorem roundHalfEvenFraction_isSome (t : List Char) (exponent : Nat) :
    (roundHalfEvenFraction (fractionPart t) exponent).isSome = true ↔
      exponent = 0 ∨ Plain (keptPart exponent t) ∨ Disguised (keptPart exponent t) := by
  unfold roundHalfEvenFraction
  by_cases hzero : exponent = 0
  · rw [if_pos hzero]
    refine iff_of_true ?_ (Or.inl hzero)
    split <;> rfl
  · rw [if_neg hzero, Option.isSome_map, ← bigInt_reads_iff]
    simp only [hzero, false_or]
    rfl

theorem bigInt_whole_isSome (cs : List Char) :
    (bigInt (if cs = [] then ['0'] else cs)).isSome = true ↔ Plain cs ∨ Disguised cs := by
  by_cases hnil : cs = []
  · rw [if_pos hnil, hnil]
    exact iff_of_true rfl (Or.inl fun c hc => nomatch hc)
  · rw [if_neg hnil, bigInt_reads_iff]

theorem behindSign_eq_nil_iff (t : List Char) :
    behindSign t = [] ↔ t = [] ∨ t = ['-'] ∨ t = ['+'] := by
  cases t with
  | nil => exact iff_of_true rfl (Or.inl rfl)
  | cons c ds =>
    unfold behindSign
    by_cases hsign : c = '-' ∨ c = '+'
    · have hhead : (c :: ds).head? = some '-' ∨ (c :: ds).head? = some '+' := by simpa using hsign
      rw [if_pos hhead]
      simp only [List.drop_succ_cons, List.drop_zero, List.cons.injEq, List.cons_ne_nil, false_or]
      constructor
      · exact fun h => hsign.imp (⟨·, h⟩) (⟨·, h⟩)
      · exact fun h => h.elim And.right And.right
    · have hhead : ¬ ((c :: ds).head? = some '-' ∨ (c :: ds).head? = some '+') := by
        simpa using hsign
      rw [if_neg hhead]
      refine iff_of_false (List.cons_ne_nil _ _) ?_
      rintro (h | h | h)
      · cases h
      · exact hsign (Or.inl (List.cons.inj h).1)
      · exact hsign (Or.inr (List.cons.inj h).1)

/-- What is converted: `BigInt` reads the whole part, and the kept part if there are places. -/
theorem accepts_iff {amount : String} {multiplier : Double} {k : Int}
    (hmultiplier : bigIntOfNumber multiplier = some k) (hk : 1 ≤ k) :
    Accepts amount multiplier ↔
      behindSign (trim amount.toList) ≠ [] ∧
      (Plain (wholePart (trim amount.toList)) ∨ Disguised (wholePart (trim amount.toList))) ∧
      (exponentOf multiplier = 0 ∨ Plain (keptPart (exponentOf multiplier) (trim amount.toList)) ∨
        Disguised (keptPart (exponentOf multiplier) (trim amount.toList))) := by
  rw [← roundHalfEvenFraction_isSome, ← bigInt_whole_isSome, ne_eq, behindSign_eq_nil_iff]
  unfold Accepts decimalToMinorUnits
  generalize trim amount.toList = t
  simp only [hmultiplier, if_neg (Int.not_lt.mpr hk)]
  by_cases hempty : t = [] ∨ t = ['-'] ∨ t = ['+']
  · rw [if_pos hempty]
    exact iff_of_false (fun ⟨_, h⟩ => nomatch h) fun h => h.1 hempty
  rw [if_neg hempty]
  have hwhole : (if (t.head? == some '-') = true ∨ t.head? = some '+' then t.drop 1 else t) =
      behindSign t := by
    rw [behindSign]
    simp only [beq_iff_eq]
  have hfraction : (if exponentOf multiplier = 0 then
      if (fractionPart t).length = 0 then some 0 else roundHalfEvenFraction (fractionPart t) 0
      else roundHalfEvenFraction (fractionPart t) (exponentOf multiplier)) =
      roundHalfEvenFraction (fractionPart t) (exponentOf multiplier) := by
    by_cases hzero : exponentOf multiplier = 0
    · rw [if_pos hzero, hzero]
      by_cases hnil : (fractionPart t).length = 0
      · rw [if_pos hnil, roundHalfEvenFraction, if_pos rfl, if_pos hnil]
      · rw [if_neg hnil]
    · rw [if_neg hzero]
  rw [hwhole, show (behindSign t).takeWhile (fun c => decide (c ≠ '.')) = wholePart t from rfl,
    show ((behindSign t).dropWhile fun c => decide (c ≠ '.')).drop 1 = fractionPart t from rfl,
    show (numberText multiplier).length - 1 = exponentOf multiplier from rfl, hfraction]
  cases bigInt (if wholePart t = [] then ['0'] else wholePart t) with
  | none => simp
  | some whole =>
    cases roundHalfEvenFraction (fractionPart t) (exponentOf multiplier) with
    | none => simp
    | some fractionalMu => simp [hempty]

/-! ### Numerals -/

theorem behindSign_split (t : List Char) :
    behindSign t = wholePart t ++ (behindSign t).dropWhile (· ≠ '.') :=
  List.takeWhile_append_dropWhile.symm

/-- The point and what stands behind it. -/
theorem dropWhile_point (cs : List Char) :
    cs.dropWhile (· ≠ '.') = [] ∨
      cs.dropWhile (· ≠ '.') = '.' :: (cs.dropWhile (· ≠ '.')).drop 1 := by
  cases h : cs.dropWhile (· ≠ '.') with
  | nil => exact Or.inl rfl
  | cons c rest =>
    have hhead := List.head?_dropWhile_not (fun c => decide (c ≠ '.')) cs
    rw [h] at hhead
    right
    have hpoint : c = '.' := by simpa using hhead
    rw [hpoint]
    rfl

theorem sign_split (t : List Char) : ∃ sign : Money.Sign, t = sign.text ++ behindSign t := by
  cases t with
  | nil => exact ⟨.none, rfl⟩
  | cons c ds =>
    by_cases hminus : c = '-'
    · exact ⟨.minus, by rw [hminus]; rfl⟩
    by_cases hplus : c = '+'
    · exact ⟨.plus, by rw [hplus]; rfl⟩
    · refine ⟨.none, ?_⟩
      have hhead : ¬ ((c :: ds).head? = some '-' ∨ (c :: ds).head? = some '+') := by
        simp [hminus, hplus]
      rw [behindSign, if_neg hhead]
      rfl

theorem isNumeral_iff (t : List Char) : IsNumeral t ↔
    Plain (wholePart t) ∧ Plain (fractionPart t) ∧ wholePart t ++ fractionPart t ≠ [] := by
  constructor
  · rintro ⟨a, rfl⟩
    have hbehind : behindSign a.chars = a.magnitudeText := by
      have habs := abs_chars a
      rw [← isNegative_chars] at habs
      rw [behindSign]
      simpa only [beq_iff_eq] using habs
    have hwhole : wholePart a.chars = a.whole := by rw [wholePart, hbehind, whole_chars]
    have hfraction : fractionPart a.chars = a.places := by
      rw [fractionPart, hbehind, fraction_chars]
    rw [hwhole, hfraction]
    exact ⟨fun c hc => a.isDigit_of_mem_whole hc, fun c hc => a.isDigit_of_mem_places hc,
      a.someDigit⟩
  · rintro ⟨hwhole, hfraction, hsome⟩
    obtain ⟨sign, hsign⟩ := sign_split t
    have hdigits : ∀ c ∈ wholePart t ++ fractionPart t, c.isDigit = true := by
      intro c hc
      cases List.mem_append.mp hc with
      | inl hc => exact hwhole c hc
      | inr hc => exact hfraction c hc
    cases dropWhile_point (behindSign t) with
    | inl hnone =>
      have hnil : fractionPart t = [] := by rw [fractionPart, hnone]; rfl
      rw [hnil] at hdigits hsome
      refine ⟨⟨sign, wholePart t, none, hdigits, hsome⟩, ?_⟩
      have hsplit := behindSign_split t
      rw [hnone] at hsplit
      exact (congrArg (sign.text ++ ·) hsplit.symm).trans hsign.symm
    | inr hpoint =>
      refine ⟨⟨sign, wholePart t, some (fractionPart t), hdigits, hsome⟩, ?_⟩
      have hsplit := behindSign_split t
      rw [hpoint] at hsplit
      exact (congrArg (sign.text ++ ·) hsplit.symm).trans hsign.symm

/-! ### The loopholes -/

/-- A text that is converted and is no numeral: a lone point, a whole part or kept places that
`BigInt` reads in disguise, or anything but digits behind the kept places. -/
structure Loophole (exponent : Nat) (t : List Char) : Prop where
  whole : Plain (wholePart t) ∨ Disguised (wholePart t)
  kept : exponent = 0 ∨ Plain (keptPart exponent t) ∨ Disguised (keptPart exponent t)
  odd : behindSign t = ['.'] ∨ Disguised (wholePart t) ∨
    (exponent ≠ 0 ∧ Disguised (keptPart exponent t)) ∨ ¬ Plain ((fractionPart t).drop exponent)

theorem plain_keptPart {exponent : Nat} {t : List Char}
    (h : Plain ((fractionPart t).take exponent)) : Plain (keptPart exponent t) := by
  intro c hc
  cases List.mem_append.mp hc with
  | inl hc => exact h c hc
  | inr hc =>
    rw [List.eq_of_mem_replicate hc]
    rfl

theorem Loophole.not_isNumeral {exponent : Nat} {t : List Char} (h : Loophole exponent t) :
    ¬ IsNumeral t := by
  rw [isNumeral_iff]
  rintro ⟨hwhole, hfraction, hsome⟩
  rcases h.odd with hpoint | hodd | ⟨-, hodd⟩ | hodd
  · apply hsome
    rw [wholePart, fractionPart, hpoint]
    rfl
  · exact hodd.not_plain hwhole
  · exact hodd.not_plain (plain_keptPart fun c hc => hfraction c (List.mem_of_mem_take hc))
  · exact hodd fun c hc => hfraction c (List.mem_of_mem_drop hc)

theorem Loophole.behindSign_ne_nil {exponent : Nat} {t : List Char} (h : Loophole exponent t) :
    behindSign t ≠ [] := by
  intro hnil
  have hwhole : wholePart t = [] := by rw [wholePart, hnil]; rfl
  have hfraction : fractionPart t = [] := by rw [fractionPart, hnil]; rfl
  have hkept : Plain (keptPart exponent t) := plain_keptPart (by rw [hfraction]; simp [Plain])
  rcases h.odd with hpoint | hodd | ⟨-, hodd⟩ | hodd
  · rw [hnil] at hpoint
    cases hpoint
  · rw [hwhole] at hodd
    exact hodd.not_plain (by simp [Plain])
  · exact hodd.not_plain hkept
  · rw [hfraction] at hodd
    exact hodd (by simp [Plain])

/-- Where the pieces are read and no numeral stands, one of them is odd. -/
theorem odd_of_not_isNumeral {exponent : Nat} {t : List Char} (hne : behindSign t ≠ [])
    (hwhole : Plain (wholePart t) ∨ Disguised (wholePart t))
    (hkept : exponent = 0 ∨ Plain (keptPart exponent t) ∨ Disguised (keptPart exponent t))
    (h : ¬ IsNumeral t) : Loophole exponent t := by
  refine ⟨hwhole, hkept, ?_⟩
  by_contra hodd
  simp only [not_or, not_and, not_not] at hodd
  obtain ⟨hpoint, hplainWhole, hplainKept, hplainRest⟩ := hodd
  have hwhole : Plain (wholePart t) := hwhole.resolve_right hplainWhole
  have htake : Plain ((fractionPart t).take exponent) := by
    by_cases hzero : exponent = 0
    · rw [hzero]
      simp [Plain]
    · have hplain := (hkept.resolve_left hzero).resolve_right (hplainKept hzero)
      exact fun c hc => hplain c (List.mem_append_left _ hc)
  apply h
  rw [isNumeral_iff]
  refine ⟨hwhole, ?_, ?_⟩
  · rw [← List.take_append_drop exponent (fractionPart t)]
    intro c hc
    cases List.mem_append.mp hc with
    | inl hc => exact htake c hc
    | inr hc => exact hplainRest c hc
  · intro hnil
    obtain ⟨hwholeNil, hfractionNil⟩ := List.append_eq_nil_iff.mp hnil
    have hsplit := behindSign_split t
    rw [hwholeNil, List.nil_append] at hsplit
    cases dropWhile_point (behindSign t) with
    | inl hnone => exact hne (hsplit.trans hnone)
    | inr hsome =>
      apply hpoint
      rw [hsplit, hsome]
      exact congrArg ('.' :: ·) hfractionNil

/-- Numerals are converted, and all other texts but the loopholes are refused. -/
theorem acceptsNumerals_iff (amount : String) {multiplier : Double} {k : Int}
    (hmultiplier : bigIntOfNumber multiplier = some k) (hk : 1 ≤ k) :
    (Accepts amount multiplier ↔ IsNumeral (trim amount.toList)) ↔
      ¬ Loophole (exponentOf multiplier) (trim amount.toList) := by
  rw [accepts_iff hmultiplier hk]
  constructor
  · intro hiff hloophole
    exact hloophole.not_isNumeral
      (hiff.mp ⟨hloophole.behindSign_ne_nil, hloophole.whole, hloophole.kept⟩)
  · intro hnone
    constructor
    · rintro ⟨hne, hwhole, hkept⟩
      by_contra h
      exact hnone (odd_of_not_isNumeral hne hwhole hkept h)
    · intro hnumeral
      obtain ⟨hwhole, hfraction, hsome⟩ := (isNumeral_iff _).mp hnumeral
      refine ⟨?_, Or.inl hwhole, Or.inr (Or.inl ?_)⟩
      · intro hnil
        apply hsome
        rw [wholePart, fractionPart, hnil]
        rfl
      · exact plain_keptPart fun c hc => hfraction c (List.mem_of_mem_take hc)

theorem hundred : ∃ x, Binary64.ofInt 100 = .finite x ∧ Js.IsNat x (10 ^ 2) :=
  Js.isNat_ofInt (n := 100) (by decide)

/-- Letters behind the two kept places are compared, and found to be more than a half. -/
theorem letters_accepted : ¬ ∀ (amount : String) (multiplier : Double) (k : Int),
    bigIntOfNumber multiplier = some k → 1 ≤ k →
      (Accepts amount multiplier ↔ IsNumeral (trim amount.toList)) := by
  intro h
  obtain ⟨x, -, hx⟩ := hundred
  have hexponent : exponentOf (.finite x) = 2 := length_numberText hx
  have hletters : Loophole 2 (trim "1.23abc".toList) := by
    have hodd : ¬ Plain ((fractionPart (trim "1.23abc".toList)).drop 2) := by decide
    exact ⟨Or.inl (by decide), Or.inr (Or.inl (by decide)), Or.inr (Or.inr (Or.inr hodd))⟩
  have hone : (1 : Int) ≤ ((10 ^ 2 : Nat) : Int) := by decide
  have hiff := h "1.23abc" (.finite x) _ hx.bigIntOfNumber hone
  rw [accepts_iff hx.bigIntOfNumber hone, hexponent] at hiff
  exact hletters.not_isNumeral
    (hiff.mp ⟨hletters.behindSign_ne_nil, hletters.whole, hletters.kept⟩)

/-- A numeral is no loophole. -/
theorem twelve_fifty_accepted : ∃ x, Binary64.ofInt 100 = .finite x ∧
    (Accepts "12.50" (.finite x) ↔ IsNumeral (trim "12.50".toList)) := by
  obtain ⟨x, hofInt, hx⟩ := hundred
  refine ⟨x, hofInt, (acceptsNumerals_iff "12.50" hx.bigIntOfNumber (by decide)).mpr ?_⟩
  have hnumeral : IsNumeral (trim "12.50".toList) := by
    rw [isNumeral_iff]
    decide
  exact fun h => h.not_isNumeral hnumeral

end BrainV2.LibMetrics
