import BrainV2.Identity.Stitch

/-!
# The winner of a merge

* `IsOldest`: the entry that was made first, at equal times with the smallest id;
* `Overtakes`: an entry with a smaller id that follows, at the same time, a later
  entry of the oldest cluster;
* `resolvedClusterId_iff`: the loop ends with the oldest cluster exactly when no entry
  overtakes it.
-/

namespace BrainV2.Identity

open BrainV2.Utf16 BrainV2.Consent

/-- Older, or of one age with an id that is not greater. -/
def AtLeastAsOld (a b : ExistingCluster) : Prop :=
  a.createdAt < b.createdAt ∨ a.createdAt = b.createdAt ∧ unitsLe a.clusterId b.clusterId = true

structure IsOldest (clusters : List ExistingCluster) (oldest : ExistingCluster) : Prop where
  mem : oldest ∈ clusters
  le : ∀ c ∈ clusters, AtLeastAsOld oldest c

/-- `later` is an entry of the oldest cluster that was made after its first, and `c` has the
time of `later` and a smaller id. -/
def Overtakes (oldest later c : ExistingCluster) : Prop :=
  later.clusterId = oldest.clusterId ∧ oldest.createdAt < later.createdAt ∧
    c.createdAt = later.createdAt ∧ unitsLe oldest.clusterId c.clusterId = false

theorem AtLeastAsOld.trans {a b c : ExistingCluster} (h : AtLeastAsOld a b)
    (h' : AtLeastAsOld b c) : AtLeastAsOld a c := by
  rcases h with h | ⟨h, hle⟩
  · rcases h' with h' | ⟨h', -⟩
    · exact Or.inl (h.trans h')
    · exact Or.inl (h' ▸ h)
  · rcases h' with h' | ⟨h', hle'⟩
    · exact Or.inl (h ▸ h')
    · exact Or.inr ⟨h.trans h', unitsLe_trans hle hle'⟩

theorem atLeastAsOld_total (a b : ExistingCluster) : AtLeastAsOld a b ∨ AtLeastAsOld b a := by
  rcases lt_trichotomy a.createdAt b.createdAt with h | h | h
  · exact Or.inl (Or.inl h)
  · rcases unitsLe_total a.clusterId b.clusterId with hle | hle
    · exact Or.inl (Or.inr ⟨h, hle⟩)
    · exact Or.inr (Or.inr ⟨h.symm, hle⟩)
  · exact Or.inr (Or.inl h)

theorem exists_isOldest {clusters : List ExistingCluster} (h : clusters ≠ []) :
    ∃ oldest, IsOldest clusters oldest := by
  induction clusters with
  | nil => exact absurd rfl h
  | cons c cs ih =>
    have hself : AtLeastAsOld c c := Or.inr ⟨rfl, unitsLe_refl _⟩
    by_cases hcs : cs = []
    · subst hcs
      refine ⟨c, List.mem_cons_self, fun d hd => ?_⟩
      rw [List.mem_singleton.mp hd]
      exact hself
    obtain ⟨o, ho⟩ := ih hcs
    rcases atLeastAsOld_total c o with hco | hoc
    · refine ⟨c, List.mem_cons_self, fun d hd => ?_⟩
      rcases List.mem_cons.mp hd with rfl | hd
      · exact hself
      · exact hco.trans (ho.le d hd)
    · refine ⟨o, List.mem_cons_of_mem _ ho.mem, fun d hd => ?_⟩
      rcases List.mem_cons.mp hd with rfl | hd
      · exact hoc
      · exact ho.le d hd

/-! ### One turn of the loop -/

section

variable {winner candidate : ExistingCluster}

theorem challenge_of_lt (h : winner.createdAt < candidate.createdAt) :
    challenge winner candidate =
      if winner.clusterId = candidate.clusterId then candidate else winner := by
  simp [challenge, resolveWinningClusterId, ExistingCluster.dated, h]

theorem challenge_of_tie (h : winner.createdAt = candidate.createdAt) :
    challenge winner candidate =
      if unitsLe winner.clusterId candidate.clusterId then
        if winner.clusterId = candidate.clusterId then candidate else winner
      else candidate := by
  by_cases hle : unitsLe winner.clusterId candidate.clusterId = true
  · simp [challenge, resolveWinningClusterId, ExistingCluster.dated, h, hle]
  · simp [challenge, resolveWinningClusterId, ExistingCluster.dated, h, hle]

/-- Whoever is no longer of the oldest cluster has a smaller id, and stays so. -/
theorem challenge_smaller {id : String} (hw : unitsLe id winner.clusterId = false)
    (h : winner.createdAt ≤ candidate.createdAt) :
    unitsLe id (challenge winner candidate).clusterId = false := by
  rcases h.lt_or_eq with h | h
  · rw [challenge_of_lt h]
    split
    case isTrue he => rwa [← he]
    case isFalse => exact hw
  · rw [challenge_of_tie h]
    split
    case isTrue =>
      split
      case isTrue he => rwa [← he]
      case isFalse => exact hw
    case isFalse hle =>
      by_contra hid
      rw [Bool.not_eq_false] at hid
      have hcw := (unitsLe_total winner.clusterId candidate.clusterId).resolve_left hle
      rw [unitsLe_trans hid hcw] at hw
      cases hw

theorem challenge_createdAt (h : winner.createdAt ≤ candidate.createdAt) :
    (challenge winner candidate).createdAt ≤ candidate.createdAt := by
  unfold challenge
  split
  · exact le_refl _
  · exact h

end

/-! ### The loop -/

section

variable {oldest winner : ExistingCluster} {rest : List ExistingCluster}

def InOrder (clusters : List ExistingCluster) : Prop :=
  clusters.Pairwise fun a b => a.createdAt ≤ b.createdAt

theorem foldl_challenge_smaller {id : String} (hw : unitsLe id winner.clusterId = false)
    (hle : ∀ c ∈ rest, winner.createdAt ≤ c.createdAt) (hsorted : InOrder rest) :
    unitsLe id (rest.foldl challenge winner).clusterId = false := by
  induction rest generalizing winner with
  | nil => exact hw
  | cons c rest ih =>
    obtain ⟨hc, hrest⟩ := List.pairwise_cons.mp hsorted
    have hwc := hle c List.mem_cons_self
    apply ih (challenge_smaller hw hwc) _ hrest
    intro d hd
    exact (challenge_createdAt hwc).trans (hc d hd)

/-- No entry overtakes the oldest cluster. -/
def NotOvertaken (oldest : ExistingCluster) (sorted : List ExistingCluster) : Prop :=
  sorted.Pairwise fun later c => ¬ Overtakes oldest later c

theorem notOvertaken_cons : NotOvertaken oldest (winner :: rest) ↔
    (∀ c ∈ rest, ¬ Overtakes oldest winner c) ∧ NotOvertaken oldest rest :=
  List.pairwise_cons

theorem notOvertaken_cons_of_ne (h : winner.clusterId ≠ oldest.clusterId) :
    NotOvertaken oldest (winner :: rest) ↔ NotOvertaken oldest rest := by
  rw [notOvertaken_cons]
  exact ⟨fun e => e.2, fun e => ⟨fun _ _ hc => h hc.1, e⟩⟩

theorem notOvertaken_cons_of_lt (h : ∀ c ∈ rest, winner.createdAt < c.createdAt) :
    NotOvertaken oldest (winner :: rest) ↔ NotOvertaken oldest rest := by
  rw [notOvertaken_cons]
  exact ⟨fun e => e.2, fun e => ⟨fun c hc ho => (h c hc).ne' ho.2.2.1, e⟩⟩

theorem notOvertaken_cons_of_first (h : winner.createdAt = oldest.createdAt) :
    NotOvertaken oldest (winner :: rest) ↔ NotOvertaken oldest rest := by
  rw [notOvertaken_cons]
  exact ⟨fun e => e.2, fun e => ⟨fun c _ ho => ho.2.1.ne' h, e⟩⟩

/-- The winner is a later entry of the oldest cluster. -/
theorem foldl_challenge_later (hid : winner.clusterId = oldest.clusterId)
    (hlater : oldest.createdAt < winner.createdAt)
    (hle : ∀ c ∈ rest, winner.createdAt ≤ c.createdAt) (hsorted : InOrder rest) :
    (rest.foldl challenge winner).clusterId = oldest.clusterId ↔
      NotOvertaken oldest (winner :: rest) := by
  induction rest generalizing winner with
  | nil => simp [hid, NotOvertaken]
  | cons c rest ih =>
    obtain ⟨hc, hrest⟩ := List.pairwise_cons.mp hsorted
    have hwc := hle c List.mem_cons_self
    have hwle : ∀ d ∈ rest, winner.createdAt ≤ d.createdAt := fun d hd => hwc.trans (hc d hd)
    rw [List.foldl_cons]
    rcases hwc.lt_or_eq with hlt | heq
    · have hwlt : ∀ d ∈ c :: rest, winner.createdAt < d.createdAt := by
        intro d hd
        rcases List.mem_cons.mp hd with rfl | hd
        · exact hlt
        · exact hlt.trans_le (hc d hd)
      rw [challenge_of_lt hlt, notOvertaken_cons_of_lt hwlt]
      by_cases hsame : winner.clusterId = c.clusterId
      · rw [if_pos hsame]
        exact ih (hsame ▸ hid) (hlater.trans hlt) hc hrest
      · have hne : c.clusterId ≠ oldest.clusterId := fun e => hsame (hid.trans e.symm)
        rw [if_neg hsame, ih hid hlater hwle hrest, notOvertaken_cons_of_ne hne]
        exact notOvertaken_cons_of_lt fun d hd => hwlt d (List.mem_cons_of_mem _ hd)
    · rw [challenge_of_tie heq]
      by_cases hsmaller : unitsLe winner.clusterId c.clusterId = true
      · rw [if_pos hsmaller]
        have hnot : ¬ Overtakes oldest winner c := by
          rintro ⟨-, -, -, hover⟩
          rw [← hid, hsmaller] at hover
          cases hover
        by_cases hsame : winner.clusterId = c.clusterId
        · rw [if_pos hsame, ih (hsame ▸ hid) (heq ▸ hlater) hc hrest, notOvertaken_cons,
            @notOvertaken_cons oldest winner, notOvertaken_cons]
          constructor
          · rintro ⟨hover, hrestOver⟩
            refine ⟨fun d hd ho => ?_, hover, hrestOver⟩
            rcases List.mem_cons.mp hd with rfl | hd
            · exact hnot ho
            · exact hover d hd ⟨hsame ▸ ho.1, heq ▸ ho.2.1, ho.2.2.1.trans heq, ho.2.2.2⟩
          · rintro ⟨-, hover⟩
            exact hover
        · have hne : c.clusterId ≠ oldest.clusterId := fun e => hsame (hid.trans e.symm)
          rw [if_neg hsame, ih hid hlater hwle hrest, notOvertaken_cons,
            @notOvertaken_cons oldest winner, notOvertaken_cons_of_ne hne]
          constructor
          · rintro ⟨hover, hrestOver⟩
            refine ⟨fun d hd ho => ?_, hrestOver⟩
            rcases List.mem_cons.mp hd with rfl | hd
            · exact hnot ho
            · exact hover d hd ho
          · rintro ⟨hover, hrestOver⟩
            exact ⟨fun d hd => hover d (List.mem_cons_of_mem _ hd), hrestOver⟩
      · rw [if_neg hsmaller]
        rw [Bool.not_eq_true, hid] at hsmaller
        have hend := foldl_challenge_smaller hsmaller hc hrest
        constructor
        · intro he
          rw [he, unitsLe_refl] at hend
          cases hend
        · intro hover
          apply absurd _ ((notOvertaken_cons.mp hover).1 c List.mem_cons_self)
          exact ⟨hid, hlater, heq.symm, hsmaller⟩

/-- The winner is one of the first entries; the oldest is the winner or is still to come. -/
theorem foldl_challenge_first (hfirst : winner.createdAt = oldest.createdAt)
    (hid : oldest.clusterId = winner.clusterId ∨
      ∃ o ∈ rest, o.createdAt = oldest.createdAt ∧ o.clusterId = oldest.clusterId)
    (hmin : ∀ c ∈ winner :: rest, c.createdAt = oldest.createdAt →
      unitsLe oldest.clusterId c.clusterId = true)
    (hle : ∀ c ∈ rest, oldest.createdAt ≤ c.createdAt) (hsorted : InOrder rest) :
    (rest.foldl challenge winner).clusterId = oldest.clusterId ↔
      NotOvertaken oldest (winner :: rest) := by
  induction rest generalizing winner with
  | nil =>
    rcases hid with hid | ⟨o, ho, -⟩
    · simp [hid, NotOvertaken]
    · cases ho
  | cons c rest ih =>
    obtain ⟨hc, hrest⟩ := List.pairwise_cons.mp hsorted
    have hrestLe : ∀ d ∈ rest, oldest.createdAt ≤ d.createdAt :=
      fun d hd => hle d (List.mem_cons_of_mem _ hd)
    rw [List.foldl_cons, notOvertaken_cons_of_first hfirst]
    rcases (hle c List.mem_cons_self).lt_or_eq with hlt | heq
    · -- The first entries are over, so the winner is of the oldest cluster.
      have hwid : oldest.clusterId = winner.clusterId := by
        rcases hid with hid | ⟨o, ho, hoTime, -⟩
        · exact hid
        · rcases List.mem_cons.mp ho with rfl | ho
          · exact absurd hoTime hlt.ne'
          · exact absurd hoTime (hlt.trans_le (hc o ho)).ne'
      rw [challenge_of_lt (hfirst ▸ hlt)]
      by_cases hsame : winner.clusterId = c.clusterId
      · rw [if_pos hsame]
        exact foldl_challenge_later (hwid.trans hsame).symm hlt hc hrest
      · have hne : c.clusterId ≠ oldest.clusterId := fun e => hsame (hwid.symm.trans e.symm)
        rw [if_neg hsame, notOvertaken_cons_of_ne hne, ih hfirst (Or.inl hwid) _ hrestLe hrest,
          notOvertaken_cons_of_first hfirst]
        intro d hd
        rcases List.mem_cons.mp hd with rfl | hd
        · exact hmin _ List.mem_cons_self
        · exact hmin d (List.mem_cons_of_mem _ (List.mem_cons_of_mem _ hd))
    · have htie : winner.createdAt = c.createdAt := hfirst.trans heq
      have hnext : challenge winner c = winner ∨ challenge winner c = c := by
        unfold challenge
        split
        · exact Or.inr rfl
        · exact Or.inl rfl
      have hnextFirst : (challenge winner c).createdAt = oldest.createdAt := by
        rcases hnext with hnext | hnext
        · rw [hnext, hfirst]
        · rw [hnext, heq]
      have hnextId : oldest.clusterId = (challenge winner c).clusterId ∨
          ∃ o ∈ rest, o.createdAt = oldest.createdAt ∧ o.clusterId = oldest.clusterId := by
        have hcMin := hmin c (List.mem_cons_of_mem _ List.mem_cons_self) heq.symm
        have hwMin := hmin winner List.mem_cons_self hfirst
        rw [challenge_of_tie htie]
        rcases hid with hid | ⟨o, ho, hoTime, hoId⟩
        · left
          rw [if_pos (hid ▸ hcMin)]
          split
          case isTrue he => exact hid.trans he
          case isFalse => exact hid
        · rcases List.mem_cons.mp ho with rfl | ho
          · left
            split
            case isTrue hwc =>
              have heqId := unitsLe_antisymm hwc (hoId ▸ hwMin)
              rw [if_pos heqId]
              exact hoId.symm
            case isFalse => exact hoId.symm
          · exact Or.inr ⟨o, ho, hoTime, hoId⟩
      rw [ih hnextFirst hnextId _ hrestLe hrest, notOvertaken_cons_of_first hnextFirst,
        notOvertaken_cons_of_first heq.symm]
      intro d hd
      rcases List.mem_cons.mp hd with rfl | hd
      · rcases hnext with hnext | hnext
        · rw [hnext]
          exact hmin winner List.mem_cons_self
        · rw [hnext]
          exact hmin c (List.mem_cons_of_mem _ List.mem_cons_self)
      · exact hmin d (List.mem_cons_of_mem _ (List.mem_cons_of_mem _ hd))

end

theorem inOrder_sortByCreatedAt (clusters : List ExistingCluster) :
    InOrder (sortByCreatedAt clusters) := by
  have htotal : Std.Total fun a b : ExistingCluster => a.createdAt ≤ b.createdAt :=
    ⟨fun a b => le_total a.createdAt b.createdAt⟩
  have htrans : IsTrans ExistingCluster fun a b => a.createdAt ≤ b.createdAt :=
    ⟨fun _ _ _ => le_trans⟩
  exact List.pairwise_insertionSort _ _

/-- The loop ends with the id of the oldest entry exactly when no entry overtakes it. -/
theorem resolvedClusterId_iff {clusters : List ExistingCluster} {oldest : ExistingCluster}
    (h : IsOldest clusters oldest) :
    resolvedClusterId clusters = some oldest.clusterId ↔
      NotOvertaken oldest (sortByCreatedAt clusters) := by
  rw [resolvedClusterId_eq]
  have hsorted := inOrder_sortByCreatedAt clusters
  have hmem : ∀ c, c ∈ sortByCreatedAt clusters ↔ c ∈ clusters := fun c => mem_sortByCreatedAt
  cases hsort : sortByCreatedAt clusters with
  | nil =>
    have hnone := (hmem oldest).mpr h.mem
    rw [hsort] at hnone
    cases hnone
  | cons first rest =>
    rw [hsort] at hsorted hmem
    obtain ⟨hfirstLe, hrest⟩ := List.pairwise_cons.mp hsorted
    have htime : ∀ c ∈ first :: rest, oldest.createdAt ≤ c.createdAt := by
      intro c hc
      rcases h.le c ((hmem c).mp hc) with hlt | ⟨heq, -⟩
      · exact hlt.le
      · exact heq.le
    have hfirst : first.createdAt = oldest.createdAt := by
      apply le_antisymm _ (htime first List.mem_cons_self)
      rcases List.mem_cons.mp ((hmem oldest).mpr h.mem) with heq | hmemRest
      · rw [heq]
      · exact hfirstLe oldest hmemRest
    have hid : oldest.clusterId = first.clusterId ∨
        ∃ o ∈ rest, o.createdAt = oldest.createdAt ∧ o.clusterId = oldest.clusterId := by
      rcases List.mem_cons.mp ((hmem oldest).mpr h.mem) with heq | hmemRest
      · exact Or.inl (by rw [heq])
      · exact Or.inr ⟨oldest, hmemRest, rfl, rfl⟩
    have hmin : ∀ c ∈ first :: rest, c.createdAt = oldest.createdAt →
        unitsLe oldest.clusterId c.clusterId = true := by
      intro c hc heq
      rcases h.le c ((hmem c).mp hc) with hlt | ⟨-, hle⟩
      · exact absurd heq hlt.ne'
      · exact hle
    rw [mergeWinner, Option.map_some, Option.some.injEq]
    exact foldl_challenge_first hfirst hid hmin
      (fun c hc => htime c (List.mem_cons_of_mem _ hc)) hrest

end BrainV2.Identity
