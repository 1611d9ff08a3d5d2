import BrainV2.Ingest.PiiTokenizer

/-!
# One phone number, one match key

The tokenizer of the ingestion and the identity hashes of the core bring a
phone number into a canonical text before they hash it.

* `normalizePhone`: the text that the core hashes;
* `IsPhoneText`: digits, spaces, dashes and parentheses after an optional plus;
* `ingest_normalizePhone`, `normalizePhone_phone`: both texts by the plus and
  the digits of the number;
* `one_match_key_iff`: the two agree exactly for a plus with other than ten
  digits, and for ten digits without a plus;
* `trunk_prefix_splits_key`: a number with two keys.
-/

namespace BrainV2.Identity

open BrainV2.Ingest (isWhitespace stripText)

/-- `phone.replace(/\D/g, '')` -/
def phoneDigits (phone : String) : List Char := phone.toList.filter Char.isDigit

def normalizePhone (phone : Option String) : Option String :=
  match phone with
  | none => none
  | some phone =>
    if phone = "" then none
    else
      let digits := phoneDigits phone
      if digits.length < 7 then none
      else if digits.length = 10 then some ("+91" ++ String.ofList digits)
      else if digits.length = 12 ∧ ['9', '1'].isPrefixOf digits then
        some ("+" ++ String.ofList digits)
      else some ("+" ++ String.ofList digits)

def hasPlus (phone : String) : Bool := phone.toList.head? == some '+'

/-- What may stand behind the plus. -/
def isPhoneChar (c : Char) : Bool := c.isDigit || c ∈ [' ', '-', '(', ')']

structure IsPhoneText (phone : String) : Prop where
  chars : ∀ c ∈ phone.toList.drop (hasPlus phone).toNat, isPhoneChar c = true
  enough : 7 ≤ (phoneDigits phone).length

structure IsE164 (phone : String) : Prop where
  plus : hasPlus phone = true
  digits : ∀ c ∈ phone.toList.drop 1, c.isDigit = true
  low : 8 ≤ (phoneDigits phone).length
  high : (phoneDigits phone).length ≤ 15

/-- The number has one canonical text on both sides. -/
structure OneMatchKey (phone : String) : Prop where
  same : normalizePhone (some phone) = some (Ingest.normalizePhone phone)
  ingestIdempotent : Ingest.normalizePhone (Ingest.normalizePhone phone) =
    Ingest.normalizePhone phone
  idempotent : ∀ key, normalizePhone (some phone) = some key → normalizePhone (some key) = some key
  e164 : IsE164 phone → Ingest.normalizePhone phone = phone ∧ normalizePhone (some phone) = some phone

/-! ### The digits of a stripped number -/

theorem filter_dropWhile {p q : Char → Bool} (hpq : ∀ c, q c = true → p c = false)
    (cs : List Char) : (cs.dropWhile q).filter p = cs.filter p := by
  induction cs with
  | nil => rfl
  | cons c cs ih =>
    cases hq : q c with
    | true => rw [List.dropWhile_cons_of_pos hq, ih, List.filter_cons_of_neg (by simp [hpq c hq])]
    | false => rw [List.dropWhile_cons_of_neg (by simp [hq])]

theorem filter_rdropWhile {p q : Char → Bool} (hpq : ∀ c, q c = true → p c = false)
    (cs : List Char) : (cs.rdropWhile q).filter p = cs.filter p := by
  rw [List.rdropWhile, List.filter_reverse, filter_dropWhile hpq, ← List.filter_reverse,
    List.reverse_reverse]

theorem isDigit_of_isWhitespace {c : Char} (h : isWhitespace c = true) : c.isDigit = false := by
  rw [← Bool.not_eq_true]
  intro hdigit
  simp only [Char.isDigit, Bool.and_eq_true, decide_eq_true_eq, UInt32.le_iff_toNat_le] at hdigit
  simp only [isWhitespace, Py.isSpace, Bool.or_eq_true, Bool.and_eq_true, decide_eq_true_eq,
    beq_iff_eq, Char.toNat] at h
  have hlow : 48 ≤ c.val.toNat := hdigit.1
  have hhigh : c.val.toNat ≤ 57 := hdigit.2
  omega

theorem digits_stripText (phone : String) : phoneDigits (stripText phone) = phoneDigits phone := by
  unfold phoneDigits stripText
  rw [String.toList_ofList, filter_rdropWhile fun _ => isDigit_of_isWhitespace,
    filter_dropWhile fun _ => isDigit_of_isWhitespace]

section

variable {phone : String}

theorem IsPhoneText.of_mem (h : IsPhoneText phone) {c : Char} (hc : c ∈ phone.toList) :
    isPhoneChar c = true ∨ c = '+' := by
  cases hplus : hasPlus phone with
  | false => exact Or.inl (h.chars c (by simpa [hplus] using hc))
  | true =>
    obtain ⟨body, hbody⟩ : ∃ body, phone.toList = '+' :: body := by
      rw [← List.head?_eq_some_iff]
      exact beq_iff_eq.mp hplus
    have hchars := h.chars
    simp only [hbody, hplus, Bool.toNat_true, List.drop_one, List.tail_cons] at hchars
    rw [hbody, List.mem_cons] at hc
    exact hc.symm.imp_left (hchars c)

/-- On a phone number the digits of Unicode are the plain ones. -/
theorem IsPhoneText.decimalDigit_eq (h : IsPhoneText phone) {c : Char} (hc : c ∈ phone.toList) :
    (Py.decimalDigit c).isSome = c.isDigit := by
  rcases h.of_mem hc with hchar | rfl
  · rcases Bool.or_eq_true_iff.mp hchar with hdigit | hmark
    · rw [Py.decimalDigit_of_isDigit hdigit, hdigit]
      rfl
    · simp only [List.mem_cons, List.not_mem_nil, or_false, decide_eq_true_eq] at hmark
      obtain rfl | rfl | rfl | rfl := hmark <;> decide
  · decide

theorem stripText_sublist (phone : String) : (stripText phone).toList.Sublist phone.toList := by
  rw [stripText, String.toList_ofList]
  exact (List.rdropWhile_prefix _ _).sublist.trans (List.dropWhile_sublist _)

theorem IsPhoneText.digitsOnly (h : IsPhoneText phone) :
    (stripText phone).toList.filter (fun c => (Py.decimalDigit c).isSome) = phoneDigits phone := by
  rw [← digits_stripText]
  apply List.filter_congr
  intro c hc
  exact h.decimalDigit_eq ((stripText_sublist phone).subset hc)

theorem IsPhoneText.digits_ne_nil (h : IsPhoneText phone) : phoneDigits phone ≠ [] := by
  intro hnil
  have henough := h.enough
  rw [hnil] at henough
  exact absurd henough (by decide)

/-- Stripping keeps the plus: it is no blank, and there are digits behind it. -/
theorem IsPhoneText.hasPlus_stripText (h : IsPhoneText phone) :
    hasPlus (stripText phone) = hasPlus phone := by
  cases hplus : hasPlus phone with
  | false =>
    rw [← Bool.not_eq_true]
    intro hstripped
    have hmem := (stripText_sublist phone).subset
      (List.mem_of_mem_head? (Option.mem_def.mpr (beq_iff_eq.mp hstripped)))
    have hchar := h.chars '+' (by simpa [hplus] using hmem)
    cases hchar
  | true =>
    obtain ⟨body, hbody⟩ : ∃ body, phone.toList = '+' :: body := by
      rw [← List.head?_eq_some_iff]
      exact beq_iff_eq.mp hplus
    have hprefix : (stripText phone).toList <+: '+' :: body := by
      rw [stripText, String.toList_ofList, hbody, List.dropWhile_cons_of_neg (by decide)]
      exact List.rdropWhile_prefix _ _
    have hne : (stripText phone).toList ≠ [] := by
      intro hnil
      apply h.digits_ne_nil
      rw [← digits_stripText, phoneDigits, hnil]
      rfl
    obtain ⟨c, rest, hcons⟩ := List.exists_cons_of_ne_nil hne
    rw [hcons, List.cons_prefix_cons] at hprefix
    simp [hasPlus, hcons, hprefix.1]

/-! ### Both texts by the plus and the digits -/

theorem ingest_normalizePhone (h : IsPhoneText phone) : Ingest.normalizePhone phone =
    if hasPlus phone then "+" ++ String.ofList (phoneDigits phone)
    else if (phoneDigits phone).length = 10 then "+91" ++ String.ofList (phoneDigits phone)
    else if (phoneDigits phone).length = 11 ∧ (phoneDigits phone).head? = some '0' then
      "+91" ++ String.ofList ((phoneDigits phone).drop 1)
    else String.ofList (phoneDigits phone) := by
  have hempty : (phoneDigits phone).isEmpty = false := by
    rw [← Bool.not_eq_true, List.isEmpty_iff]
    exact h.digits_ne_nil
  have hplus := h.hasPlus_stripText
  unfold hasPlus at hplus
  simp only [Ingest.normalizePhone, h.digitsOnly, hempty, hplus, hasPlus, Bool.false_eq_true,
    if_false]
  rfl

theorem normalizePhone_phone (h : IsPhoneText phone) : normalizePhone (some phone) =
    some (if (phoneDigits phone).length = 10 then "+91" ++ String.ofList (phoneDigits phone)
      else "+" ++ String.ofList (phoneDigits phone)) := by
  have hne : phone ≠ "" := by
    rintro rfl
    exact h.digits_ne_nil rfl
  have henough := h.enough
  simp only [normalizePhone, if_neg hne, if_neg (Nat.not_lt.mpr henough), ite_self]
  split <;> rfl

end

section

variable {ds : List Char} (hds : ∀ c ∈ ds, c.isDigit = true) (henough : 7 ≤ ds.length)

include hds

theorem filter_digits : ds.filter Char.isDigit = ds := List.filter_eq_self.mpr hds

theorem digits_plus : phoneDigits ("+" ++ String.ofList ds) = ds := by
  have happend : ("+" ++ String.ofList ds).toList = '+' :: ds := by simp
  rw [phoneDigits, happend, List.filter_cons_of_neg (by decide), filter_digits hds]

theorem digits_bare : phoneDigits (String.ofList ds) = ds := by
  rw [phoneDigits, String.toList_ofList, filter_digits hds]

theorem not_hasPlus_bare : hasPlus (String.ofList ds) = false := by
  rw [← Bool.not_eq_true]
  intro hplus
  rw [hasPlus, String.toList_ofList] at hplus
  cases hds '+' (List.mem_of_mem_head? (Option.mem_def.mpr (beq_iff_eq.mp hplus)))

include henough

theorem isPhoneText_plus : IsPhoneText ("+" ++ String.ofList ds) where
  chars := by
    intro c hc
    have hmem : c ∈ ds := by simpa [hasPlus] using hc
    simp [isPhoneChar, hds c hmem]
  enough := by rwa [digits_plus hds]

theorem isPhoneText_bare : IsPhoneText (String.ofList ds) where
  chars := by
    intro c hc
    have hmem : c ∈ ds := by simpa [not_hasPlus_bare hds] using hc
    simp [isPhoneChar, hds c hmem]
  enough := by rwa [digits_bare hds]

/-- A text with a plus stays as it is. -/
theorem ingest_normalizePhone_plus :
    Ingest.normalizePhone ("+" ++ String.ofList ds) = "+" ++ String.ofList ds := by
  rw [ingest_normalizePhone (isPhoneText_plus hds henough), if_pos, digits_plus hds]
  simp [hasPlus]

theorem normalizePhone_plus (hten : ds.length ≠ 10) :
    normalizePhone (some ("+" ++ String.ofList ds)) = some ("+" ++ String.ofList ds) := by
  rw [normalizePhone_phone (isPhoneText_plus hds henough), digits_plus hds, if_neg hten]

end

theorem india_eq (ds : List Char) :
    "+91" ++ String.ofList ds = "+" ++ String.ofList ('9' :: '1' :: ds) := by
  apply String.toList_injective
  simp

section

variable {phone : String}

theorem isDigit_of_mem_phoneDigits {c : Char} (hc : c ∈ phoneDigits phone) : c.isDigit = true :=
  (List.mem_filter.mp hc).2

theorem isDigit_of_mem_india {ds : List Char} (hds : ∀ c ∈ ds, c.isDigit = true) :
    ∀ c ∈ '9' :: '1' :: ds, c.isDigit = true := by
  simp only [List.forall_mem_cons]
  exact ⟨by decide, by decide, hds⟩

theorem ingest_idempotent (h : IsPhoneText phone) :
    Ingest.normalizePhone (Ingest.normalizePhone phone) = Ingest.normalizePhone phone := by
  have hds : ∀ c ∈ phoneDigits phone, c.isDigit = true := fun _ => isDigit_of_mem_phoneDigits
  have henough := h.enough
  rw [ingest_normalizePhone h]
  split
  · exact ingest_normalizePhone_plus hds henough
  split
  · rw [india_eq]
    exact ingest_normalizePhone_plus (isDigit_of_mem_india hds) (by simp only [List.length_cons]; omega)
  split
  · have hrest : ∀ c ∈ (phoneDigits phone).drop 1, c.isDigit = true :=
      fun c hc => hds c (List.mem_of_mem_drop hc)
    rw [india_eq]
    apply ingest_normalizePhone_plus (isDigit_of_mem_india hrest)
    simp only [List.length_cons, List.length_drop]
    omega
  · rename_i hten htrunk
    rw [ingest_normalizePhone (isPhoneText_bare hds henough), not_hasPlus_bare hds,
      digits_bare hds, if_neg (by decide), if_neg hten, if_neg htrunk]

theorem normalizePhone_idempotent (h : IsPhoneText phone) {key : String}
    (hkey : normalizePhone (some phone) = some key) : normalizePhone (some key) = some key := by
  have hds : ∀ c ∈ phoneDigits phone, c.isDigit = true := fun _ => isDigit_of_mem_phoneDigits
  have henough := h.enough
  rw [normalizePhone_phone h, Option.some.injEq] at hkey
  subst hkey
  split
  · rename_i hten
    rw [india_eq]
    apply normalizePhone_plus (isDigit_of_mem_india hds)
    · simp only [List.length_cons]
      omega
    · simp only [List.length_cons]
      omega
  · rename_i hten
    exact normalizePhone_plus hds henough hten

theorem IsE164.eq_plus (h : IsE164 phone) : phone = "+" ++ String.ofList (phoneDigits phone) := by
  obtain ⟨body, hbody⟩ : ∃ body, phone.toList = '+' :: body := by
    rw [← List.head?_eq_some_iff]
    exact beq_iff_eq.mp h.plus
  have hdigits := h.digits
  rw [hbody, List.drop_one, List.tail_cons] at hdigits
  apply String.toList_injective
  rw [phoneDigits, hbody, List.filter_cons_of_neg (by decide), filter_digits hdigits]
  simp

theorem keys_agree_iff (h : IsPhoneText phone) :
    normalizePhone (some phone) = some (Ingest.normalizePhone phone) ↔
      (hasPlus phone = true ↔ (phoneDigits phone).length ≠ 10) := by
  rw [normalizePhone_phone h, ingest_normalizePhone h, Option.some.injEq]
  -- Texts that differ already differ in length.
  have hlength : ∀ {s t : String}, s.length ≠ t.length → s ≠ t := by
    rintro s _ hne rfl
    exact hne rfl
  by_cases hten : (phoneDigits phone).length = 10
  · cases hasPlus phone with
    | true =>
      simp only [hten, if_true, ne_eq, not_true, iff_false]
      apply hlength
      rw [String.length_append, String.length_append, ne_eq, Nat.add_right_cancel_iff]
      decide
    | false => simp [hten]
  · cases hasPlus phone with
    | true => simp [hten]
    | false =>
      refine iff_of_false (hlength ?_) (by simp [hten])
      simp only [if_neg hten, Bool.false_eq_true, if_false, String.length_append]
      split
      · rename_i htrunk
        simp [htrunk.1, show "+91".length = 3 from rfl, show "+".length = 1 from rfl]
      · simp [show "+".length = 1 from rfl]

/-- The two sides have one key for a number exactly when it has a plus and other than ten
digits, or ten digits and no plus. -/
theorem one_match_key_iff (h : IsPhoneText phone) :
    OneMatchKey phone ↔ (hasPlus phone = true ↔ (phoneDigits phone).length ≠ 10) := by
  constructor
  · intro hkey
    exact (keys_agree_iff h).mp hkey.same
  · intro hcond
    have hsame := (keys_agree_iff h).mpr hcond
    refine ⟨hsame, ingest_idempotent h, fun _ => normalizePhone_idempotent h, fun he => ?_⟩
    have hfixed : Ingest.normalizePhone phone = phone := by
      rw [he.eq_plus]
      exact ingest_normalizePhone_plus (fun _ => isDigit_of_mem_phoneDigits) h.enough
    rw [hsame, hfixed]
    exact ⟨rfl, rfl⟩

end

/-- A number with a trunk prefix has two keys. -/
theorem trunk_prefix_splits_key :
    (IsPhoneText "098765 43210" ∧ ¬ OneMatchKey "098765 43210") ∧
      Ingest.normalizePhone "098765 43210" = "+919876543210" ∧
      normalizePhone (some "098765 43210") = some "+09876543210" := by
  refine ⟨⟨⟨List.all_eq_true.mp (by decide), by decide⟩, fun hkey => ?_⟩, by decide, by decide⟩
  exact absurd hkey.same (by decide)

theorem india_number_has_one_key :
    OneMatchKey "+91 98765-43210" ∧ OneMatchKey "98765 43210" := by
  constructor
  · exact (one_match_key_iff ⟨List.all_eq_true.mp (by decide), by decide⟩).mpr (by decide)
  · exact (one_match_key_iff ⟨List.all_eq_true.mp (by decide), by decide⟩).mpr (by decide)

end BrainV2.Identity
