import BrainV2.Ingest.Archiver
import BrainV2.Ingest.RawStore

/-!
# The object keys of the archive

* `ArchiveFolder`: the workspace, vendor and day that the keys of a folder share;
* `objectKey_eq`: a key is the path of its folder and the name of its event;
* `eq_of_safeKey_eq`, `exists_other_of_not_plain`: a name is one event's alone exactly when
  its idempotency key holds no slash, no underscore and no two dots in a row;
* `kept_iff`: so of the object itself, when the vendor is no step up either.
-/

namespace BrainV2.Ingest

open Py

section Sanitizing

/-- Two dots in a row. -/
def hasDots : List Char → Bool
  | '.' :: '.' :: _ => true
  | _ :: cs => hasDots cs
  | [] => false

theorem replaceDots_of_not_hasDots {cs : List Char} (h : hasDots cs = false) :
    replaceDots cs = cs := by
  fun_induction replaceDots cs with
  | case1 cs ih => cases h
  | case2 c cs hc ih =>
    have hrest : hasDots cs = false := by
      unfold hasDots at h
      split at h
      · cases h
      · next heq =>
        cases heq
        exact h
      · next heq => cases heq
    rw [ih hrest]
  | case3 => rfl

/-- What follows a dot is kept, or is no dot any more. -/
theorem replaceDots_head {cs : List Char} (h : (replaceDots cs).head? = some '.') :
    cs.head? = some '.' := by
  unfold replaceDots at h
  split at h
  · cases h
  · exact h
  · cases h

theorem hasDots_replaceDots (cs : List Char) : hasDots (replaceDots cs) = false := by
  fun_induction replaceDots cs with
  | case1 cs ih => exact ih
  | case2 c cs hc ih =>
    unfold hasDots
    split
    · next heq =>
      obtain ⟨rfl, hrest⟩ := List.cons.inj heq
      have hhead : cs.head? = some '.' := replaceDots_head (by rw [hrest]; rfl)
      cases cs with
      | nil => cases hhead
      | cons d ds =>
        cases hhead
        exact absurd rfl (hc ds rfl)
    · next heq =>
      obtain ⟨-, hrest⟩ := List.cons.inj heq
      rw [← hrest]
      exact ih
    · rfl
  | case3 => rfl

/-- The replacement only puts underscores in. -/
theorem mem_replaceDots {cs : List Char} {c : Char} (h : c ∈ replaceDots cs) :
    c ∈ cs ∨ c = '_' := by
  fun_induction replaceDots cs with
  | case1 cs ih =>
    simp only [List.mem_cons] at h ⊢
    rcases h with h | h | h
    · exact Or.inr h
    · exact Or.inr h
    · rcases ih h with h | h
      · exact Or.inl (Or.inr (Or.inr h))
      · exact Or.inr h
  | case2 d cs hd ih =>
    simp only [List.mem_cons] at h ⊢
    rcases h with h | h
    · exact Or.inl (Or.inl h)
    · rcases ih h with h | h
      · exact Or.inl (Or.inr h)
      · exact Or.inr h
  | case3 => cases h

theorem underscore_mem_replaceDots {cs : List Char} (h : hasDots cs = true ∨ '_' ∈ cs) :
    '_' ∈ replaceDots cs := by
  fun_induction replaceDots cs with
  | case1 cs ih => exact List.mem_cons_self
  | case2 c cs hc ih =>
    rcases h with h | h
    · have hrest : hasDots cs = true := by
        unfold hasDots at h
        split at h
        · next heq =>
          cases heq
          exact absurd rfl (hc _ rfl)
        · next heq =>
          cases heq
          exact h
        · cases h
      exact List.mem_cons_of_mem _ (ih (Or.inl hrest))
    · rcases List.mem_cons.mp h with rfl | h
      · exact List.mem_cons_self
      · exact List.mem_cons_of_mem _ (ih (Or.inr h))
  | case3 => rcases h with h | h <;> cases h

def slashToUnderscore (cs : List Char) : List Char := cs.map fun c => if c = '/' then '_' else c

theorem replaceChar_slash (key : String) :
    replaceChar key '/' "_" = String.ofList (slashToUnderscore key.toList) := by
  have hone : ∀ c : Char, (if c = '/' then "_".toList else [c]) = [if c = '/' then '_' else c] := by
    intro c
    split <;> rfl
  rw [replaceChar, slashToUnderscore]
  simp only [hone]
  rw [← List.map_eq_flatMap]

theorem safeKey_eq (key : String) :
    safeKey key = String.ofList (replaceDots (slashToUnderscore key.toList)) := by
  rw [safeKey, replaceChar_slash, String.toList_ofList]

theorem slash_not_mem (cs : List Char) : '/' ∉ slashToUnderscore cs := by
  intro h
  obtain ⟨c, -, hc⟩ := List.mem_map.mp h
  split at hc
  · cases hc
  · next hne => exact hne hc

/-- A name holds no slash. -/
theorem slash_not_mem_safeKey (key : String) : '/' ∉ (safeKey key).toList := by
  rw [safeKey_eq, String.toList_ofList]
  intro h
  rcases mem_replaceDots h with h | h
  · exact slash_not_mem _ h
  · cases h

theorem slashToUnderscore_of_not_mem {cs : List Char} (h : '/' ∉ cs) :
    slashToUnderscore cs = cs := by
  have hkept : ∀ c ∈ cs, (if c = '/' then '_' else c) = id c := by
    intro c hc
    apply if_neg
    rintro rfl
    exact h hc
  rw [slashToUnderscore, List.map_congr_left hkept, List.map_id]

theorem underscore_mem_slashToUnderscore {cs : List Char} (h : '/' ∈ cs ∨ '_' ∈ cs) :
    '_' ∈ slashToUnderscore cs := by
  rcases h with h | h
  · exact List.mem_map.mpr ⟨'/', h, rfl⟩
  · exact List.mem_map.mpr ⟨'_', h, rfl⟩

/-- The key has nothing that a sanitized one could also stand for. -/
structure PlainKey (key : String) : Prop where
  slash : '/' ∉ key.toList
  underscore : '_' ∉ key.toList
  dots : hasDots key.toList = false

theorem safeKey_of_plain {key : String} (h : PlainKey key) : safeKey key = key := by
  rw [safeKey_eq, slashToUnderscore_of_not_mem h.slash, replaceDots_of_not_hasDots h.dots,
    String.ofList_toList]

/-- The sanitized name of no other key is a plain one. -/
theorem eq_of_safeKey_eq {key other : String} (h : PlainKey key)
    (hsafe : safeKey other = safeKey key) : other = key := by
  rw [safeKey_of_plain h] at hsafe
  have hnone : '_' ∉ replaceDots (slashToUnderscore other.toList) := by
    intro hmem
    apply h.underscore
    rw [← hsafe, safeKey_eq, String.toList_ofList]
    exact hmem
  have hslash : '/' ∉ other.toList := by
    intro hmem
    exact hnone (underscore_mem_replaceDots (Or.inr (underscore_mem_slashToUnderscore
      (Or.inl hmem))))
  have hkept : slashToUnderscore other.toList = other.toList := slashToUnderscore_of_not_mem hslash
  rw [hkept] at hnone
  have hunderscore : '_' ∉ other.toList := fun hmem =>
    hnone (underscore_mem_replaceDots (Or.inr hmem))
  have hdots : hasDots other.toList = false := by
    apply Bool.eq_false_iff.mpr
    intro hmem
    exact hnone (underscore_mem_replaceDots (Or.inl hmem))
  rw [← hsafe, safeKey_of_plain ⟨hslash, hunderscore, hdots⟩]

/-- Every other key is stored under the name of a second one. -/
theorem exists_other_of_not_plain {key : String} (h : ¬ PlainKey key) :
    ∃ other, other ≠ key ∧ safeKey other = safeKey key := by
  by_cases hslash : '/' ∈ key.toList
  · -- the key with its slashes replaced
    refine ⟨String.ofList (slashToUnderscore key.toList), ?_, ?_⟩
    · intro heq
      apply slash_not_mem key.toList
      rw [← String.toList_ofList (l := slashToUnderscore key.toList), heq]
      exact hslash
    · rw [safeKey_eq, safeKey_eq, String.toList_ofList,
        slashToUnderscore_of_not_mem (slash_not_mem key.toList)]
  by_cases hunderscore : '_' ∈ key.toList
  · -- the key with slashes for its underscores
    have hback : slashToUnderscore (key.toList.map fun c => if c = '_' then '/' else c) =
        key.toList := by
      have hkept : ∀ c ∈ key.toList,
          ((fun c => if c = '/' then '_' else c) ∘ fun c => if c = '_' then '/' else c) c =
            id c := by
        intro c hc
        have hne : c ≠ '/' := by
          rintro rfl
          exact hslash hc
        by_cases hc' : c = '_' <;> simp [hc', hne]
      rw [slashToUnderscore, List.map_map, List.map_congr_left hkept, List.map_id]
    refine ⟨String.ofList (key.toList.map fun c => if c = '_' then '/' else c), ?_, ?_⟩
    · intro heq
      apply hslash
      rw [← heq, String.toList_ofList]
      exact List.mem_map.mpr ⟨'_', hunderscore, rfl⟩
    · rw [safeKey_eq, safeKey_eq, String.toList_ofList, hback,
        slashToUnderscore_of_not_mem hslash]
  · -- the name itself, for its dots
    have hdots : hasDots key.toList = true := by
      apply (Bool.not_eq_false _).mp
      intro hdots
      exact h ⟨hslash, hunderscore, hdots⟩
    have hname : safeKey key = String.ofList (replaceDots key.toList) := by
      rw [safeKey_eq, slashToUnderscore_of_not_mem hslash]
    refine ⟨safeKey key, ?_, ?_⟩
    · intro heq
      rw [← heq, hname, String.toList_ofList, hasDots_replaceDots] at hdots
      cases hdots
    · rw [safeKey_eq (safeKey key), slashToUnderscore_of_not_mem (slash_not_mem_safeKey key), hname,
        String.toList_ofList, replaceDots_of_not_hasDots (hasDots_replaceDots _)]

end Sanitizing

section Paths

/-- The workspace, the vendor and the day that the keys of a folder share. -/
structure ArchiveFolder where
  workspaceId : String
  vendor : String
  receivedAt : Datetime
  day : Nat × Nat × Nat
  workspaceUuid : isUuid workspaceId = true
  vendorSlash : '/' ∉ vendor.toList
  utcDay : utcDate receivedAt = .ok day

def ArchiveFolder.segments (folder : ArchiveFolder) : List (List Char) :=
  [folder.workspaceId.toList, folder.vendor.toList, pad 4 folder.day.1, pad 2 folder.day.2.1,
    pad 2 folder.day.2.2]

/-- The last segment of the key of an event. -/
def objectName (key : String) : List Char := (safeKey key).toList ++ ".json.zst".toList

def objectKey (limits : Limits) (folder : ArchiveFolder) (key : String) : Except PyExc String :=
  buildS3Key limits (.str folder.workspaceId) (.str folder.vendor) folder.receivedAt (.str key)

theorem objectKey_eq (limits : Limits) (folder : ArchiveFolder) (key : String) :
    objectKey limits folder key =
      .ok (String.ofList (['/'].intercalate (folder.segments ++ [objectName key]))) := by
  simp only [objectKey, buildS3Key, folder.utcDay, bind, Except.bind, pyStr, pure, Except.pure]
  congr 1
  apply String.toList_inj.mp
  simp [ArchiveFolder.segments, objectName, List.intercalate]

theorem matchesGroups_chars {groups : List Nat} {cs : List Char}
    (h : matchesGroups groups cs = true) :
    ∀ c ∈ cs, isHexDigit c = true ∨ c = '-' ∨ c = '\n' := by
  fun_induction matchesGroups groups cs with
  | case1 cs =>
    simp only [Bool.or_eq_true, beq_iff_eq] at h
    rcases h with rfl | rfl
    · simp
    · simp
  | case2 n cs ih =>
    simp only [Bool.and_eq_true, List.all_eq_true] at h
    intro c hc
    rw [← List.take_append_drop n cs, List.mem_append] at hc
    rcases hc with hc | hc
    · exact Or.inl (h.1.1 c hc)
    · exact ih h.2 c hc
  | case3 n groups cs hgroups ih =>
    simp only [Bool.and_eq_true, List.all_eq_true, beq_iff_eq] at h
    intro c hc
    rw [← List.take_append_drop n cs, List.mem_append] at hc
    rcases hc with hc | hc
    · exact Or.inl (h.1.1.1 c hc)
    · cases hdrop : cs.drop n with
      | nil =>
        rw [hdrop] at hc
        cases hc
      | cons d rest =>
        have hd : d = '-' := by simpa [hdrop] using h.1.2
        have hrest : cs.drop (n + 1) = rest := by
          rw [← List.drop_drop, hdrop]
          rfl
        rw [hdrop] at hc
        rcases List.mem_cons.mp hc with rfl | hc
        · exact Or.inr (Or.inl hd)
        · exact ih h.2 c (hrest ▸ hc)

theorem not_mem_uuid {text : String} (h : isUuid text = true) {c : Char}
    (hc : isHexDigit c = false ∧ c ≠ '-' ∧ c ≠ '\n') : c ∉ text.toList := by
  intro hmem
  rcases matchesGroups_chars h c hmem with hhex | hdash | hline
  · rw [hc.1] at hhex
    cases hhex
  · exact hc.2.1 hdash
  · exact hc.2.2 hline

theorem digit_not_mem_pad {width n : Nat} {c : Char} (h : c.isDigit = false) :
    c ∉ pad width n := by
  intro hmem
  rw [isDigit_pad width n c hmem] at h
  cases h

theorem slash_not_mem_objectName (key : String) : '/' ∉ objectName key := by
  intro hmem
  rcases List.mem_append.mp hmem with hmem | hmem
  · exact slash_not_mem_safeKey key hmem
  · revert hmem
    decide

theorem slash_not_mem_segments (folder : ArchiveFolder) (key : String) :
    ∀ segment ∈ folder.segments ++ [objectName key], '/' ∉ segment := by
  have hworkspace : '/' ∉ folder.workspaceId.toList :=
    not_mem_uuid folder.workspaceUuid (by decide)
  simp only [ArchiveFolder.segments, List.cons_append, List.nil_append, List.forall_mem_cons]
  exact ⟨hworkspace, folder.vendorSlash, digit_not_mem_pad rfl, digit_not_mem_pad rfl,
    digit_not_mem_pad rfl, slash_not_mem_objectName key, by simp⟩

/-- The segments of a path. -/
def segments (path : String) : List (List Char) := path.toList.splitOn '/'

theorem segments_objectKey {limits : Limits} {folder : ArchiveFolder} {key path : String}
    (h : objectKey limits folder key = .ok path) :
    segments path = folder.segments ++ [objectName key] := by
  rw [objectKey_eq] at h
  cases h
  rw [segments, String.toList_ofList]
  exact List.splitOn_intercalate '/' (slash_not_mem_segments folder key) (by simp)

/-- Keys of one folder differ exactly as their names do. -/
theorem objectKey_inj {limits : Limits} {folder : ArchiveFolder} {key other : String} :
    objectKey limits folder other = objectKey limits folder key ↔ safeKey other = safeKey key := by
  constructor
  · intro h
    have hpath := objectKey_eq limits folder key
    have hsegments := segments_objectKey hpath
    rw [segments_objectKey (h.trans hpath)] at hsegments
    have hlast := (List.append_cancel_left hsegments)
    have hname : objectName other = objectName key := List.head_eq_of_cons_eq hlast
    exact String.toList_inj.mp (List.append_cancel_right hname)
  · intro h
    rw [objectKey_eq, objectKey_eq, objectName, objectName, h]

/-- The event has an object of its own: no other key of the folder names it, its name is
one segment, and no segment leads up. -/
structure Kept (limits : Limits) (folder : ArchiveFolder) (key : String) : Prop where
  own : ∀ other, other ≠ key → objectKey limits folder other ≠ objectKey limits folder key
  path : ∃ path name, objectKey limits folder key = .ok path ∧
    segments path = folder.segments ++ [name] ∧ '/' ∉ name ∧ "..".toList ∉ segments path

theorem objectName_ne_dots (key : String) : objectName key ≠ "..".toList := by
  intro h
  have hlength := congrArg List.length h
  simp [objectName] at hlength

theorem pad_ne_dots (width n : Nat) : pad width n ≠ "..".toList := by
  intro h
  have hdot : '.' ∉ pad width n := digit_not_mem_pad rfl
  rw [h] at hdot
  exact hdot (by decide)

theorem dots_not_mem_segments {folder : ArchiveFolder} {key : String} :
    "..".toList ∉ folder.segments ++ [objectName key] ↔ folder.vendor ≠ ".." := by
  have hworkspace : folder.workspaceId.toList ≠ "..".toList := by
    intro h
    have hdot : '.' ∉ folder.workspaceId.toList := not_mem_uuid folder.workspaceUuid (by decide)
    rw [h] at hdot
    exact hdot (by decide)
  have hvendor : "..".toList = folder.vendor.toList ↔ folder.vendor = ".." :=
    eq_comm.trans String.toList_inj
  simp only [ArchiveFolder.segments, List.cons_append, List.nil_append, List.mem_cons,
    List.not_mem_nil, or_false, not_or, hworkspace.symm, (pad_ne_dots _ _).symm,
    (objectName_ne_dots key).symm, not_false_eq_true, true_and, hvendor]

/-- An object is kept exactly when its key holds no slash, no underscore and no two dots
in a row, and the vendor is no step up. -/
theorem kept_iff (limits : Limits) (folder : ArchiveFolder) (key : String) :
    Kept limits folder key ↔ PlainKey key ∧ folder.vendor ≠ ".." := by
  have hown : (∀ other, other ≠ key → objectKey limits folder other ≠ objectKey limits folder key)
      ↔ PlainKey key := by
    constructor
    · intro h
      by_contra hplain
      obtain ⟨other, hne, hsafe⟩ := exists_other_of_not_plain hplain
      exact h other hne (objectKey_inj.mpr hsafe)
    · intro h other hne hpath
      exact hne (eq_of_safeKey_eq h (objectKey_inj.mp hpath))
  constructor
  · rintro ⟨hkey, path, name, hpath, -, -, hdots⟩
    rw [segments_objectKey hpath, dots_not_mem_segments] at hdots
    exact ⟨hown.mp hkey, hdots⟩
  · rintro ⟨hplain, hvendor⟩
    have hpath := objectKey_eq limits folder key
    refine ⟨hown.mpr hplain, _, objectName key, hpath, segments_objectKey hpath,
      slash_not_mem_objectName key, ?_⟩
    rw [segments_objectKey hpath]
    exact dots_not_mem_segments.mpr hvendor

/-- A folder of a day in May. -/
def mayFolder : ArchiveFolder where
  workspaceId := "6f9619ff-8b86-4d01-b42d-00cf4fc964ff"
  vendor := "shopify"
  receivedAt := ⟨.of 2026 5 1, .of 0 0 0 0, some .utc⟩
  day := (2026, 5, 1)
  workspaceUuid := Eq.refl true
  vendorSlash := by decide
  utcDay := by decide

/-- The second of two events overwrites the first. -/
theorem slash_overwrites_underscore :
    ¬ Kept ⟨1000, 1000⟩ mayFolder "order_1" ∧
      objectKey ⟨1000, 1000⟩ mayFolder "order/1" = objectKey ⟨1000, 1000⟩ mayFolder "order_1" := by
  have hname : safeKey "order/1" = safeKey "order_1" := by decide +kernel
  have hsame : objectKey ⟨1000, 1000⟩ mayFolder "order/1" =
      objectKey ⟨1000, 1000⟩ mayFolder "order_1" := objectKey_inj.mpr hname
  refine ⟨fun h => ?_, hsame⟩
  exact h.own "order/1" (by decide) hsame

end Paths

end BrainV2.Ingest
