import MoonlightWeb.Lib.ErasureCode
import MoonlightWeb.MoonlightCommonC.InvertMat

/-! The Reed-Solomon code of the streams: how the parity shards are made, and how lost
data shards are made again from those that arrived. -/
namespace MoonlightWeb.MoonlightCommonC

variable {ds ps : Nat}

/-! ## Coding shards -/

/-- The buffers that the shards point to, by the number of the shard. -/
abbrev Buffers := Nat → Nat → Gf

namespace Buffers

/-- With nothing to multiply by, the bytes are to be cleared, but none of them are. -/
def mul (dst src : Nat → Gf) (c : Gf) (sz : Nat) : Nat → Gf :=
  if c ≠ 0 then fun x => if x < sz then c * src x else dst x else dst

def addmul (dst src : Nat → Gf) (c : Gf) (sz : Nat) : Nat → Gf :=
  if c ≠ 0 then fun x => if x < sz then dst x + c * src x else dst x else dst

end Buffers

/-- One input, for every output. -/
def codeShard (matrixRows : Nat → Fin ds → Gf) (inputs : Fin ds → Nat) (outputs : Nat → Nat)
    (outputCount byteCount : Nat) (buffers : Buffers) (c : Fin ds) : Buffers :=
  (List.range outputCount).foldl (fun buffers iRow =>
    let dst := buffers (outputs iRow)
    let src := buffers (inputs c)
    let coefficient := matrixRows iRow c
    Function.update buffers (outputs iRow)
      (if c.val = 0 then Buffers.mul dst src coefficient byteCount
        else Buffers.addmul dst src coefficient byteCount)) buffers

def codeSomeShards (matrixRows : Nat → Fin ds → Gf) (inputs : Fin ds → Nat) (outputs : Nat → Nat)
    (outputCount byteCount : Nat) (buffers : Buffers) : Buffers :=
  (List.finRange ds).foldl (codeShard matrixRows inputs outputs outputCount byteCount) buffers

/-! ## The code -/

def DATA_SHARDS_MAX : Nat := 255

structure ReedSolomon (dataShards parityShards : Nat) where
  m : Nat → Fin dataShards → Gf
  parity : Nat → Fin dataShards → Gf

def multiply1 (a : Nat → Fin ds → Gf) (b : Matrix (Fin ds) (Fin ds) Gf) : Nat → Fin ds → Gf :=
  fun r c => (List.finRange ds).foldl (fun tg i => tg + a r i * b i c) 0

def reedSolomonNew (dataShards parityShards : Nat) : Option (ReedSolomon dataShards parityShards) :=
  if dataShards + parityShards > DATA_SHARDS_MAX ∨ dataShards = 0 ∨ parityShards = 0 then none
  else
    let vm : Nat → Fin dataShards → Gf := fun row col => if row = col then 1 else 0
    let (top, _) := invertMat fun row : Fin dataShards => vm row
    let product := multiply1 vm top
    let m : Nat → Fin dataShards → Gf := fun row i =>
      if dataShards ≤ row then ⟨inverse (UInt8.ofNat ((parityShards + i) ^^^ (row - dataShards)))⟩
      else product row i
    some { m, parity := fun row => m (dataShards + row) }

namespace ReedSolomon

/-- The parity shards of all groups stand after the data shards of all groups. -/
def encode (rs : ReedSolomon ds ps) (buffers : Buffers) (nrShards blockSize : Nat) : Buffers :=
  let groups := nrShards / (ds + ps)
  (List.range ((nrShards + (ds + ps) - 1) / (ds + ps))).foldl (fun buffers group =>
    codeSomeShards rs.parity (fun c => group * ds + c) (fun iRow => groups * ds + group * ps + iRow)
      ps blockSize buffers) buffers

/-! ## Decoding -/

/-- One pass for the least number: it trades places with every smaller one. -/
def sweep (head : Nat) : List Nat → Nat × List Nat × Bool
  | [] => (head, [], false)
  | x :: rest =>
    if head > x then
      let (least, others, _) := sweep x rest
      (least, head :: others, true)
    else
      let (least, others, swap) := sweep head rest
      (least, x :: others, swap)

/-- The passes end with one that changes nothing. -/
def sortPasses : Nat → List Nat → List Nat
  | passes + 1, head :: rest =>
    let swept := sweep head rest
    swept.1 :: if swept.2.2 then sortPasses passes swept.2.1 else swept.2.1
  | _, erased => erased

def sortErased (erased : List Nat) : List Nat := sortPasses erased.length erased

/-- The rows of the data shards that are there, each with its buffer. -/
def keptRows (rs : ReedSolomon ds ps) (dataBlocks : Nat → Nat) :
    List Nat → List Nat → List ((Fin ds → Gf) × Nat)
  | _, [] => []
  | [], i :: rest => (rs.m i, dataBlocks i) :: keptRows rs dataBlocks [] rest
  | j :: erased, i :: rest =>
    if i = j then keptRows rs dataBlocks erased rest
    else (rs.m i, dataBlocks i) :: keptRows rs dataBlocks (j :: erased) rest

/-- The rows of the erased shards, moved to the front. -/
def moveRows (matrix : Nat → Fin ds → Gf) (erased : List Nat) : Nat → Fin ds → Gf :=
  (List.range erased.length).foldl (fun matrix i => Function.update matrix i (matrix (erased.getD i 0))) matrix

def decode (rs : ReedSolomon ds ps) (dataBlocks : Nat → Nat) (blockSize : Nat)
    (decFecBlocks fecBlockNos erasedBlocks : List Nat) (buffers : Buffers) : Buffers × Int :=
  let erased := sortErased erasedBlocks
  let kept := keptRows rs dataBlocks erased (List.range ds)
  let fec := (fecBlockNos.zip decFecBlocks).map fun (no, block) => (rs.m (ds + no), block)
  let rows := kept ++ fec.take (ds - kept.length)
  if rows.length < ds then (buffers, -1)
  else
    let row (i : Nat) : (Fin ds → Gf) × Nat := rows.getD i (0, 0)
    let (inverted, _) := invertMat fun i : Fin ds => (row i).1
    let matrix := moveRows (fun i => if inside : i < ds then inverted ⟨i, inside⟩ else 0) erased
    (codeSomeShards matrix (fun c => (row c).2) (fun i => dataBlocks (erased.getD i 0)) erased.length
      blockSize buffers, 0)

/-! ## Reconstruction -/

/-- One group of shards; a group that cannot be made whole is left alone. -/
def reconstructGroup (rs : ReedSolomon ds ps) (marks : Nat → Bool) (blockSize dataBlocks fecBlocks : Nat)
    (result : Buffers × Int) : Buffers × Int :=
  let (buffers, err) := result
  let erasedBlocks := (List.range ds).filter fun i => marks (dataBlocks + i)
  if erasedBlocks.length > 0 then
    let fecBlockNos := ((List.range ps).filter fun i => !marks (fecBlocks + i)).take erasedBlocks.length
    if erasedBlocks.length = fecBlockNos.length then
      let (decoded, _) := decode rs (dataBlocks + ·) blockSize (fecBlockNos.map (fecBlocks + ·))
        fecBlockNos erasedBlocks buffers
      (decoded, err)
    else (buffers, -1)
  else (buffers, err)

def reconstruct (rs : ReedSolomon ds ps) (buffers : Buffers) (marks : Nat → Bool)
    (nrShards blockSize : Nat) : Buffers × Int :=
  let groups := nrShards / (ds + ps)
  (List.range groups).foldl (fun result group =>
    reconstructGroup rs marks blockSize (group * ds) (groups * ds + group * ps) result) (buffers, 0)

end ReedSolomon

/-! ## What coding leaves -/

section Coding

variable {matrixRows : Nat → Fin ds → Gf} {inputs : Fin ds → Nat} {outputs : Nat → Nat}
variable {outputCount byteCount : Nat} {buffers : Buffers}

theorem codeShard_other (c : Fin ds) (other : ∀ iRow < outputCount, outputs iRow ≠ p) :
    codeShard matrixRows inputs outputs outputCount byteCount buffers c p = buffers p := by
  unfold codeShard
  induction outputCount with
  | zero => rfl
  | succ count ih =>
    rw [List.range_succ, List.foldl_append, List.foldl_cons, List.foldl_nil,
      Function.update_of_ne (other count (Nat.lt_succ_self count)).symm]
    exact ih fun iRow inside => other iRow (Nat.lt_succ_of_lt inside)

theorem codeShard_output (c : Fin ds) (distinct : Set.InjOn outputs (Set.Iio outputCount))
    (apart : ∀ iRow < outputCount, outputs iRow ≠ inputs c) (inside : iRow < outputCount) :
    codeShard matrixRows inputs outputs outputCount byteCount buffers c (outputs iRow) =
      if c.val = 0 then Buffers.mul (buffers (outputs iRow)) (buffers (inputs c)) (matrixRows iRow c) byteCount
      else Buffers.addmul (buffers (outputs iRow)) (buffers (inputs c)) (matrixRows iRow c) byteCount := by
  induction outputCount with
  | zero => exact absurd inside (Nat.not_lt_zero iRow)
  | succ count ih =>
    have fewer : Set.InjOn outputs (Set.Iio count) := distinct.mono (Set.Iio_subset_Iio (Nat.le_succ count))
    have apart' : ∀ iRow < count, outputs iRow ≠ inputs c := fun iRow inside =>
      apart iRow (Nat.lt_succ_of_lt inside)
    have last : codeShard matrixRows inputs outputs (count + 1) byteCount buffers c =
        Function.update (codeShard matrixRows inputs outputs count byteCount buffers c) (outputs count)
          (if c.val = 0 then Buffers.mul (buffers (outputs count)) (buffers (inputs c)) (matrixRows count c) byteCount
          else Buffers.addmul (buffers (outputs count)) (buffers (inputs c)) (matrixRows count c) byteCount) := by
      have new : ∀ iRow < count, outputs iRow ≠ outputs count := fun iRow before same =>
        Nat.ne_of_lt before (distinct (Nat.lt_succ_of_lt before) (Nat.lt_succ_self count) same)
      have own : codeShard matrixRows inputs outputs count byteCount buffers c (outputs count) =
          buffers (outputs count) := codeShard_other c new
      have source : codeShard matrixRows inputs outputs count byteCount buffers c (inputs c) =
          buffers (inputs c) := codeShard_other c apart'
      rw [← own, ← source]
      unfold codeShard
      rw [List.range_succ, List.foldl_append, List.foldl_cons, List.foldl_nil]
    rw [last]
    rcases Nat.lt_succ_iff_lt_or_eq.mp inside with before | rfl
    · have other : outputs iRow ≠ outputs count := fun same =>
        Nat.ne_of_lt before (distinct inside (Nat.lt_succ_self count) same)
      rw [Function.update_of_ne other]
      exact ih fewer apart' before
    · rw [Function.update_self]

theorem codeShards_other (cols : List (Fin ds)) (other : ∀ iRow < outputCount, outputs iRow ≠ p) :
    cols.foldl (codeShard matrixRows inputs outputs outputCount byteCount) buffers p = buffers p := by
  induction cols generalizing buffers with
  | nil => rfl
  | cons c rest ih => rw [List.foldl_cons, ih, codeShard_other c other]

/-- Every input after the first is added, whatever its coefficient. -/
theorem codeShards_output (cols : List (Fin ds)) (later : ∀ c ∈ cols, c.val ≠ 0)
    (distinct : Set.InjOn outputs (Set.Iio outputCount))
    (apart : ∀ iRow < outputCount, ∀ c, outputs iRow ≠ inputs c) (inside : iRow < outputCount)
    (within : x < byteCount) :
    cols.foldl (codeShard matrixRows inputs outputs outputCount byteCount) buffers (outputs iRow) x =
      buffers (outputs iRow) x + (cols.map fun c => matrixRows iRow c * buffers (inputs c) x).sum := by
  induction cols generalizing buffers with
  | nil => rw [List.foldl_nil, List.map_nil, List.sum_nil, add_zero]
  | cons c rest ih =>
    obtain ⟨first, later'⟩ := List.forall_mem_cons.mp later
    have kept : ∀ c', codeShard matrixRows inputs outputs outputCount byteCount buffers c (inputs c') =
        buffers (inputs c') := fun c' => codeShard_other c fun iRow inside => apart iRow inside c'
    have added : codeShard matrixRows inputs outputs outputCount byteCount buffers c (outputs iRow) x =
        buffers (outputs iRow) x + matrixRows iRow c * buffers (inputs c) x := by
      rw [codeShard_output c distinct (fun iRow inside => apart iRow inside c) inside, if_neg first]
      unfold Buffers.addmul
      split
      · exact if_pos within
      · next zero => rw [not_not.mp zero, zero_mul, add_zero]
    rw [List.foldl_cons, ih later', added, List.map_cons, List.sum_cons, add_assoc]
    simp only [kept]

/-- An output is the sum over the inputs, provided that the first one takes part:
otherwise what the output held before would be in it. -/
theorem codeSomeShards_output (distinct : Set.InjOn outputs (Set.Iio outputCount))
    (apart : ∀ iRow < outputCount, ∀ c, outputs iRow ≠ inputs c) (inside : iRow < outputCount)
    (within : x < byteCount) (positive : 0 < ds) (first : matrixRows iRow ⟨0, positive⟩ ≠ 0) :
    codeSomeShards matrixRows inputs outputs outputCount byteCount buffers (outputs iRow) x =
      ∑ c, matrixRows iRow c * buffers (inputs c) x := by
  obtain ⟨d, rfl⟩ := Nat.exists_eq_succ_of_ne_zero (Nat.ne_of_gt positive)
  have later : ∀ c ∈ (List.finRange d).map Fin.succ, c.val ≠ 0 := by
    intro c among
    obtain ⟨c', _, rfl⟩ := List.mem_map.mp among
    exact Nat.succ_ne_zero _
  have kept : ∀ c', codeShard matrixRows inputs outputs outputCount byteCount buffers 0 (inputs c') =
      buffers (inputs c') := fun c' => codeShard_other 0 fun iRow inside => apart iRow inside c'
  have first' : matrixRows iRow 0 ≠ 0 := first
  have start : codeShard matrixRows inputs outputs outputCount byteCount buffers 0 (outputs iRow) x =
      matrixRows iRow 0 * buffers (inputs 0) x := by
    rw [codeShard_output 0 distinct (fun iRow inside => apart iRow inside 0) inside, if_pos (by rfl)]
    unfold Buffers.mul
    rw [if_pos first', if_pos within]
  unfold codeSomeShards
  rw [List.finRange_succ, List.foldl_cons, codeShards_output _ later distinct apart inside within, start,
    Fin.sum_univ_succ, List.map_map, Fin.sum_univ_def]
  simp only [kept]
  rfl

theorem codeSomeShards_other (other : ∀ iRow < outputCount, outputs iRow ≠ p) :
    codeSomeShards matrixRows inputs outputs outputCount byteCount buffers p = buffers p :=
  codeShards_other (List.finRange ds) other

end Coding

namespace ReedSolomon

/-! ## The order of the erased shards -/

theorem sweep_sorted {rest : List Nat} (least : ∀ x ∈ rest, head ≤ x) : sweep head rest = (head, rest, false) := by
  induction rest with
  | nil => rfl
  | cons x rest ih =>
    obtain ⟨first, later⟩ := List.forall_mem_cons.mp least
    rw [sweep, if_neg (Nat.not_lt.mpr first), ih later]

/-- The numbers come in order, so the first pass is the last. -/
theorem sortErased_sorted {erased : List Nat} (sorted : erased.Pairwise (· < ·)) : sortErased erased = erased := by
  cases erased with
  | nil => rfl
  | cons head rest =>
    rw [sortErased, List.length_cons, sortPasses,
      sweep_sorted fun x among => Nat.le_of_lt (List.rel_of_pairwise_cons sorted among)]
    rfl

theorem le_getD {erased : List Nat} (sorted : erased.Pairwise (· < ·)) (inside : i < erased.length) : i ≤ erased.getD i 0 := by
  induction i with
  | zero => exact Nat.zero_le _
  | succ i ih =>
    have before : i < erased.length := Nat.lt_of_succ_lt inside
    have step := List.pairwise_iff_getElem.mp sorted i (i + 1) before inside (Nat.lt_succ_self i)
    have earlier := ih before
    rw [List.getD_eq_getElem?_getD, List.getElem?_eq_getElem before, Option.getD_some] at earlier
    rw [List.getD_eq_getElem?_getD, List.getElem?_eq_getElem inside, Option.getD_some]
    exact Nat.succ_le_of_lt (Nat.lt_of_le_of_lt earlier step)

/-- A row is moved before any row above it is overwritten. -/
theorem moveRows_eq {erased : List Nat} (matrix : Nat → Fin ds → Gf) (sorted : erased.Pairwise (· < ·))
    (inside : i < erased.length) : moveRows matrix erased i = matrix (erased.getD i 0) := by
  have prefixes : ∀ count ≤ erased.length,
      (∀ r, count ≤ r → ((List.range count).foldl (fun matrix i =>
        Function.update matrix i (matrix (erased.getD i 0))) matrix) r = matrix r) ∧
      ∀ i < count, ((List.range count).foldl (fun matrix i =>
        Function.update matrix i (matrix (erased.getD i 0))) matrix) i = matrix (erased.getD i 0) := by
    intro count bound
    induction count with
    | zero => exact ⟨fun _ _ => rfl, fun i none => absurd none (Nat.not_lt_zero i)⟩
    | succ count ih =>
      obtain ⟨above, below⟩ := ih (Nat.le_of_succ_le bound)
      rw [List.range_succ, List.foldl_append, List.foldl_cons, List.foldl_nil]
      refine ⟨fun r high => ?_, fun i low => ?_⟩
      · rw [Function.update_of_ne (Nat.ne_of_gt high), above r (Nat.le_of_succ_le high)]
      · rcases Nat.lt_succ_iff_lt_or_eq.mp low with before | rfl
        · rw [Function.update_of_ne (Nat.ne_of_lt before), below i before]
        · rw [Function.update_self, above _ (le_getD sorted bound)]
  exact (prefixes erased.length (Nat.le_refl _)).2 i inside

/-! ## The rows of a decoding -/

/-- What every code made here is: the data itself, then regular sums over it. -/
structure Systematic (rs : ReedSolomon ds ps) : Prop where
  positive : 0 < ds
  data : ∀ i : Fin ds, rs.m i = Pi.single i 1
  sums : ∀ j : Fin ps, rs.m (ds + j) = rs.parity j
  regular : ErasureCode.Superregular (Matrix.of fun j : Fin ps => rs.parity j)

section Group

variable (rs : ReedSolomon ds ps) (marks : Nat → Bool) (dataBlocks fecBlocks : Nat)

/-- Where a shard of the group is. -/
def pointer : Fin ds ⊕ Fin ps → Nat
  | .inl i => dataBlocks + i
  | .inr j => fecBlocks + j

def coefficients : Fin ds ⊕ Fin ps → Fin ds → Gf
  | .inl i => rs.m i
  | .inr j => rs.m (ds + j)

def erasedIn (ds : Nat) : List Nat := (List.range ds).filter fun i => marks (dataBlocks + i)

def arrivedIn (ps : Nat) : List Nat := (List.range ps).filter fun i => !marks (fecBlocks + i)

/-- The shards that a decoding takes: the data that arrived, and as many sums as data was lost. -/
def picks (ds ps : Nat) : List (Fin ds ⊕ Fin ps) :=
  ((List.finRange ds).filter fun i : Fin ds => !marks (dataBlocks + i)).map .inl ++
    (((List.finRange ps).filter fun j : Fin ps => !marks (fecBlocks + j)).take
      (erasedIn marks dataBlocks ds).length).map .inr

theorem keptRows_filter (lost : Nat → Bool) (distinct : numbers.Nodup) :
    keptRows rs (dataBlocks + ·) (numbers.filter lost) numbers =
      (numbers.filter fun i => !lost i).map fun i => (rs.m i, dataBlocks + i) := by
  induction numbers with
  | nil => rw [List.filter_nil, keptRows]; rfl
  | cons i rest ih =>
    obtain ⟨new, distinct'⟩ := List.nodup_cons.mp distinct
    by_cases gone : lost i = true
    · rw [List.filter_cons_of_pos gone, keptRows, if_pos rfl, ih distinct',
        List.filter_cons_of_neg (by rw [gone]; decide)]
    · rw [List.filter_cons_of_neg gone, List.filter_cons_of_pos (by rw [Bool.not_eq_true] at gone; rw [gone]; rfl),
        List.map_cons, ← ih distinct']
      cases held : rest.filter lost with
      | nil => rw [keptRows]
      | cons j later =>
        have among : j ∈ rest := List.mem_of_mem_filter (held ▸ List.mem_cons_self)
        rw [keptRows, if_neg fun same : i = j => new (same ▸ among)]

theorem finRange_filter (p : Nat → Bool) (n : Nat) :
    ((List.finRange n).filter fun i : Fin n => p i).map Fin.val = (List.range n).filter p := by
  rw [← List.map_coe_finRange_eq_range, List.filter_map]
  rfl

theorem length_kept (ds : Nat) : ((List.finRange ds).filter fun i : Fin ds => !marks (dataBlocks + i)).length +
    (erasedIn marks dataBlocks ds).length = ds := by
  have whole := List.length_eq_length_filter_add (l := List.range ds) fun i => marks (dataBlocks + i)
  rw [List.length_range] at whole
  rw [← List.length_map (f := Fin.val), finRange_filter fun i => !marks (dataBlocks + i), erasedIn, Nat.add_comm]
  exact whole.symm

theorem length_picks (enough : (erasedIn marks dataBlocks ds).length ≤ (arrivedIn marks fecBlocks ps).length) :
    (picks marks dataBlocks fecBlocks ds ps).length = ds := by
  have kept := length_kept marks dataBlocks ds
  have arrived : ((List.finRange ps).filter fun j : Fin ps => !marks (fecBlocks + j)).length =
      (arrivedIn marks fecBlocks ps).length := by
    rw [← List.length_map (f := Fin.val), finRange_filter fun j => !marks (fecBlocks + j)]
    rfl
  unfold picks
  rw [List.length_append, List.length_map, List.length_map, List.length_take, arrived,
    Nat.min_eq_left enough]
  exact kept

theorem nodup_picks : (picks marks dataBlocks fecBlocks ds ps).Nodup := by
  refine List.nodup_append.mpr ⟨?_, ?_, ?_⟩
  · exact ((List.nodup_finRange ds).filter _).map Sum.inl_injective
  · exact (((List.nodup_finRange ps).filter _).sublist (List.take_sublist _ _)).map Sum.inr_injective
  · intro left among right among' same
    obtain ⟨i, _, rfl⟩ := List.mem_map.mp among
    obtain ⟨j, _, rfl⟩ := List.mem_map.mp among'
    exact Sum.inl_ne_inr same

theorem picks_arrived (among : which ∈ picks marks dataBlocks fecBlocks ds ps) :
    marks (pointer dataBlocks fecBlocks which) = false := by
  rcases List.mem_append.mp among with left | right
  · obtain ⟨i, kept, rfl⟩ := List.mem_map.mp left
    exact Bool.not_eq_true' _ ▸ (List.mem_filter.mp kept).2
  · obtain ⟨j, taken, rfl⟩ := List.mem_map.mp right
    exact Bool.not_eq_true' _ ▸ (List.mem_filter.mp (List.mem_of_mem_take taken)).2

theorem zip_map_self (f : α → β) (g : α × β → γ) (l : List α) :
    (l.zip (l.map f)).map g = l.map fun x => g (x, f x) := by
  induction l with
  | nil => rfl
  | cons x rest ih => rw [List.map_cons, List.zip_cons_cons, List.map_cons, List.map_cons, ih]

/-- The decoder's rows are those of the shards it takes. -/
theorem rows_eq (enough : (erasedIn marks dataBlocks ds).length ≤ (arrivedIn marks fecBlocks ps).length) :
    let kept := keptRows rs (dataBlocks + ·) (erasedIn marks dataBlocks ds) (List.range ds)
    let nos := (arrivedIn marks fecBlocks ps).take (erasedIn marks dataBlocks ds).length
    let fec := (nos.zip (nos.map (fecBlocks + ·))).map fun (no, block) => (rs.m (ds + no), block)
    kept ++ fec.take (ds - kept.length) =
      (picks marks dataBlocks fecBlocks ds ps).map fun which =>
        (coefficients rs which, pointer dataBlocks fecBlocks which) := by
  intro kept nos fec
  have keptEq : kept = ((List.finRange ds).filter fun i : Fin ds => !marks (dataBlocks + i)).map
      fun i : Fin ds => (rs.m i, dataBlocks + i.val) := by
    have lost := keptRows_filter rs dataBlocks (fun i => marks (dataBlocks + i)) (List.nodup_range (n := ds))
    rw [← finRange_filter fun i => !marks (dataBlocks + i), List.map_map] at lost
    exact lost
  have nosEq : nos = (((List.finRange ps).filter fun j : Fin ps => !marks (fecBlocks + j)).take
      (erasedIn marks dataBlocks ds).length).map Fin.val := by
    rw [List.map_take, finRange_filter fun j => !marks (fecBlocks + j)]
    rfl
  have fecEq : fec = nos.map fun no => (rs.m (ds + no), fecBlocks + no) := zip_map_self _ _ nos
  have room : fec.length ≤ ds - kept.length := by
    have whole := length_kept marks dataBlocks ds
    rw [fecEq, List.length_map, keptEq, List.length_map, List.length_take, Nat.min_eq_left enough]
    omega
  rw [List.take_of_length_le room, fecEq, nosEq, keptEq, picks, List.map_append, List.map_map,
    List.map_map, List.map_map]
  rfl

/-! ## One group -/

/-- What row of the decoding comes from which shard. -/
def pick (enough : (erasedIn marks dataBlocks ds).length ≤ (arrivedIn marks fecBlocks ps).length) (row : Fin ds) :
    Fin ds ⊕ Fin ps :=
  (picks marks dataBlocks fecBlocks ds ps).get (row.cast (length_picks marks dataBlocks fecBlocks enough).symm)

variable {rs marks dataBlocks fecBlocks}
variable (enough : (erasedIn marks dataBlocks ds).length ≤ (arrivedIn marks fecBlocks ps).length)

theorem pick_injective : Function.Injective (pick marks dataBlocks fecBlocks enough) := fun _ _ same =>
  Fin.cast_injective _ ((nodup_picks marks dataBlocks fecBlocks).injective_get same)

theorem pick_arrived (row : Fin ds) :
    marks (pointer dataBlocks fecBlocks (pick marks dataBlocks fecBlocks enough row)) = false :=
  picks_arrived marks dataBlocks fecBlocks (List.get_mem _ _)

theorem coefficients_eq (sound : rs.Systematic) (which : Fin ds ⊕ Fin ps) :
    coefficients rs which = ErasureCode.generator (Matrix.of fun j : Fin ps => rs.parity j) which := by
  cases which with
  | inl i => exact sound.data i
  | inr j => exact sound.sums j

theorem erased_sorted : (erasedIn marks dataBlocks ds).Pairwise (· < ·) := List.pairwise_lt_range.filter _

theorem getD_mem {l : List Nat} (inside : i < l.length) : l.getD i 0 ∈ l := by
  rw [List.getD_eq_getElem?_getD, List.getElem?_eq_getElem inside, Option.getD_some]
  exact List.getElem_mem inside

theorem mem_erasedIn : i ∈ erasedIn marks dataBlocks ds ↔ i < ds ∧ marks (dataBlocks + i) = true := by
  rw [erasedIn, List.mem_filter, List.mem_range]

theorem getD_injOn : Set.InjOn (fun i => dataBlocks + (erasedIn marks dataBlocks ds).getD i 0)
    (Set.Iio (erasedIn marks dataBlocks ds).length) := by
  intro i inside j inside' same
  have equal := Nat.add_left_cancel same
  rw [List.getD_eq_getElem?_getD, List.getD_eq_getElem?_getD, List.getElem?_eq_getElem inside,
    List.getElem?_eq_getElem inside', Option.getD_some, Option.getD_some] at equal
  exact (List.Nodup.getElem_inj_iff (erased_sorted.imp Nat.ne_of_lt)).mp equal

/-- A decoding codes the erased shards with rows of the inverse. -/
theorem decode_eq (sound : rs.Systematic) (blockSize : Nat) (buffers : Buffers) :
    ∃ matrix : Nat → Fin ds → Gf,
      (∀ i (inside : i < (erasedIn marks dataBlocks ds).length), matrix i =
        (ErasureCode.decodeMatrix (Matrix.of fun j : Fin ps => rs.parity j)
          (pick marks dataBlocks fecBlocks enough))⁻¹
          ⟨(erasedIn marks dataBlocks ds).getD i 0, (mem_erasedIn.mp (getD_mem inside)).1⟩) ∧
      decode rs (dataBlocks + ·) blockSize
        (((arrivedIn marks fecBlocks ps).take (erasedIn marks dataBlocks ds).length).map (fecBlocks + ·))
        ((arrivedIn marks fecBlocks ps).take (erasedIn marks dataBlocks ds).length)
        (erasedIn marks dataBlocks ds) buffers =
      (codeSomeShards matrix (fun c => pointer dataBlocks fecBlocks (pick marks dataBlocks fecBlocks enough c))
        (fun i => dataBlocks + (erasedIn marks dataBlocks ds).getD i 0)
        (erasedIn marks dataBlocks ds).length blockSize buffers, 0) := by
  have rows := rows_eq rs marks dataBlocks fecBlocks enough
  have length := length_picks marks dataBlocks fecBlocks enough
  have row (i : Fin ds) : ((picks marks dataBlocks fecBlocks ds ps).map fun which =>
      (coefficients rs which, pointer dataBlocks fecBlocks which)).getD i (0, 0) =
        (coefficients rs (pick marks dataBlocks fecBlocks enough i),
          pointer dataBlocks fecBlocks (pick marks dataBlocks fecBlocks enough i)) := by
    have inside : i.val < (picks marks dataBlocks fecBlocks ds ps).length := length.symm ▸ i.isLt
    rw [List.getD_eq_getElem?_getD, List.getElem?_map, List.getElem?_eq_getElem inside]
    rfl
  have matrixEq : (fun i : Fin ds => coefficients rs (pick marks dataBlocks fecBlocks enough i)) =
      ErasureCode.decodeMatrix (Matrix.of fun j : Fin ps => rs.parity j)
        (pick marks dataBlocks fecBlocks enough) :=
    funext fun i => coefficients_eq sound _
  have regular := ErasureCode.det_decodeMatrix_ne_zero sound.regular (pick_injective enough)
  have inverted := invertMat_of_det _ regular
  unfold decode
  rw [sortErased_sorted erased_sorted]
  dsimp only at rows ⊢
  rw [rows, if_neg (by rw [List.length_map, length]; exact Nat.lt_irrefl ds)]
  simp only [row, matrixEq, inverted]
  refine ⟨_, fun i inside => ?_, rfl⟩
  rw [moveRows_eq _ erased_sorted inside, dif_pos (mem_erasedIn.mp (getD_mem inside)).1]

/-- What the shards of a group that arrived hold, byte by byte. -/
def Holds (rs : ReedSolomon ds ps) (marks : Nat → Bool) (dataBlocks fecBlocks blockSize : Nat)
    (data : Nat → Fin ds → Gf) (buffers : Buffers) : Prop :=
  ∀ which : Fin ds ⊕ Fin ps, marks (pointer dataBlocks fecBlocks which) = false → ∀ x < blockSize,
    buffers (pointer dataBlocks fecBlocks which) x =
      ErasureCode.shard (Matrix.of fun j : Fin ps => rs.parity j) (data x) which

theorem decode_restores (sound : rs.Systematic)
    (holds : Holds rs marks dataBlocks fecBlocks blockSize data buffers)
    {matrix : Nat → Fin ds → Gf}
    (rows : ∀ i (inside : i < (erasedIn marks dataBlocks ds).length), matrix i =
      (ErasureCode.decodeMatrix (Matrix.of fun j : Fin ps => rs.parity j)
        (pick marks dataBlocks fecBlocks enough))⁻¹
        ⟨(erasedIn marks dataBlocks ds).getD i 0, (mem_erasedIn.mp (getD_mem inside)).1⟩)
    (inside : i < (erasedIn marks dataBlocks ds).length) (within : x < blockSize) :
    codeSomeShards matrix (fun c => pointer dataBlocks fecBlocks (pick marks dataBlocks fecBlocks enough c))
        (fun i => dataBlocks + (erasedIn marks dataBlocks ds).getD i 0)
        (erasedIn marks dataBlocks ds).length blockSize buffers
        (dataBlocks + (erasedIn marks dataBlocks ds).getD i 0) x =
      data x ⟨(erasedIn marks dataBlocks ds).getD i 0, (mem_erasedIn.mp (getD_mem inside)).1⟩ := by
  have gone (i) (inside : i < (erasedIn marks dataBlocks ds).length) := mem_erasedIn.mp (getD_mem inside)
  have apart : ∀ i < (erasedIn marks dataBlocks ds).length, ∀ c,
      dataBlocks + (erasedIn marks dataBlocks ds).getD i 0 ≠
        pointer dataBlocks fecBlocks (pick marks dataBlocks fecBlocks enough c) := fun i inside c same => by
    have arrived := pick_arrived enough c
    rw [← same, (gone i inside).2] at arrived
    exact absurd arrived (by decide)
  have lost : (⟨_, (gone i inside).1⟩ : Fin ds) ∉
      ErasureCode.survivors (pick marks dataBlocks fecBlocks enough) := fun survives => by
    obtain ⟨row, own⟩ := ErasureCode.mem_survivors.mp survives
    have arrived := pick_arrived enough row
    rw [own, pointer, (gone i inside).2] at arrived
    exact absurd arrived (by decide)
  have first : matrix i ⟨0, sound.positive⟩ ≠ 0 := by
    rw [rows i inside]
    exact ErasureCode.inv_decodeMatrix_ne_zero sound.regular (pick_injective enough) lost _
  refine (codeSomeShards_output getD_injOn apart inside within sound.positive first).trans ?_
  rw [rows i inside]
  rw [Finset.sum_congr rfl fun c _ => by
    rw [holds _ (pick_arrived enough c) x within]]
  exact ErasureCode.decode sound.regular (pick_injective enough) (data x) _

include enough in
theorem reconstructGroup_enough (some : (erasedIn marks dataBlocks ds).length > 0) (buffers : Buffers)
    (err : Int) :
    reconstructGroup rs marks blockSize dataBlocks fecBlocks (buffers, err) =
      ((decode rs (dataBlocks + ·) blockSize
        (((arrivedIn marks fecBlocks ps).take (erasedIn marks dataBlocks ds).length).map (fecBlocks + ·))
        ((arrivedIn marks fecBlocks ps).take (erasedIn marks dataBlocks ds).length)
        (erasedIn marks dataBlocks ds) buffers).1, err) := by
  have same : (erasedIn marks dataBlocks ds).length =
      ((arrivedIn marks fecBlocks ps).take (erasedIn marks dataBlocks ds).length).length := by
    rw [List.length_take, Nat.min_eq_left enough]
  unfold reconstructGroup
  unfold erasedIn arrivedIn at *
  dsimp only
  rw [if_pos some, if_pos same]

include enough in
/-- A group with as many sums as it lacks data is made whole. -/
theorem reconstructGroup_restores (sound : rs.Systematic)
    (holds : Holds rs marks dataBlocks fecBlocks blockSize data buffers) (err : Int) :
    ∃ restored, reconstructGroup rs marks blockSize dataBlocks fecBlocks (buffers, err) = (restored, err) ∧
      (∀ i : Fin ds, ∀ x < blockSize, restored (dataBlocks + i) x = data x i) ∧
      ∀ p, (∀ i < ds, p ≠ dataBlocks + i) → restored p = buffers p := by
  by_cases some : (erasedIn marks dataBlocks ds).length > 0
  · obtain ⟨matrix, rows, decoded⟩ := decode_eq enough sound blockSize buffers
    rw [reconstructGroup_enough enough some, decoded]
    refine ⟨_, rfl, fun i x within => ?_, fun p other => ?_⟩
    · by_cases gone : marks (dataBlocks + i) = true
      · obtain ⟨n, inside, same⟩ := List.getElem_of_mem (mem_erasedIn.mpr ⟨i.isLt, gone⟩)
        have value : (erasedIn marks dataBlocks ds).getD n 0 = i := by
          rw [List.getD_eq_getElem?_getD, List.getElem?_eq_getElem inside, Option.getD_some, same]
        have restored := decode_restores enough sound holds rows inside within
        simp only [value] at restored
        exact restored
      · dsimp only
        rw [codeSomeShards_other]
        · exact holds (.inl i) (Bool.not_eq_true _ ▸ gone) x within
        · intro n inside same
          have erased := (mem_erasedIn.mp (getD_mem inside)).2
          rw [same] at erased
          exact gone erased
    · exact codeSomeShards_other fun n inside same =>
        other _ (mem_erasedIn.mp (getD_mem inside)).1 same.symm
  · refine ⟨buffers, ?_, fun i x within => ?_, fun _ _ => rfl⟩
    · unfold reconstructGroup
      exact if_neg some
    · refine holds (.inl i) (Bool.not_eq_true _ ▸ fun gone => some ?_) x within
      exact List.length_pos_of_mem (mem_erasedIn.mpr ⟨i.isLt, gone⟩)

theorem reconstructGroup_fails (lacking : (arrivedIn marks fecBlocks ps).length < (erasedIn marks dataBlocks ds).length)
    (buffers : Buffers) (err : Int) :
    reconstructGroup rs marks blockSize dataBlocks fecBlocks (buffers, err) = (buffers, -1) := by
  have differ : (erasedIn marks dataBlocks ds).length ≠
      ((arrivedIn marks fecBlocks ps).take (erasedIn marks dataBlocks ds).length).length := by
    rw [List.length_take, Nat.min_eq_right (Nat.le_of_lt lacking)]
    exact Nat.ne_of_gt lacking
  have some : (erasedIn marks dataBlocks ds).length > 0 := Nat.zero_lt_of_lt lacking
  unfold reconstructGroup
  unfold erasedIn arrivedIn at *
  dsimp only
  rw [if_pos some, if_neg differ]

end Group

/-! ## All groups -/

/-- As many sums arrived as data was lost. -/
def Recoverable (ds ps : Nat) (marks : Nat → Bool) (groups group : Nat) : Prop :=
  (erasedIn marks (group * ds) ds).length ≤ (arrivedIn marks (groups * ds + group * ps) ps).length

instance : Decidable (Recoverable ds ps marks groups group) := inferInstanceAs (Decidable (_ ≤ _))

/-- The data shards of two groups do not meet. -/
theorem group_ne (i : Fin ds) (other : g ≠ h) (inside : n < ds) : g * ds + i ≠ h * ds + n := by
  intro same
  have positive : 0 < ds := Nat.zero_lt_of_lt inside
  have quotient : (g * ds + i.val) / ds = (h * ds + n) / ds := congrArg (· / ds) same
  rw [Nat.mul_comm, Nat.mul_comm h, Nat.mul_add_div positive, Nat.mul_add_div positive,
    Nat.div_eq_of_lt i.isLt, Nat.div_eq_of_lt inside] at quotient
  exact other quotient

theorem group_lt (inside : g < groups) (within : n < ds) : g * ds + n < groups * ds :=
  calc
    g * ds + n < g * ds + ds := Nat.add_lt_add_left within _
    _ = (g + 1) * ds := (Nat.succ_mul g ds).symm
    _ ≤ groups * ds := Nat.mul_le_mul_right ds inside

/-- What the reconstruction has done after the first `count` groups. -/
structure Reconstructed (marks : Nat → Bool) (blockSize groups : Nat) (data : Nat → Nat → Fin ds → Gf)
    (ps : Nat) (start : Buffers) (count : Nat) (result : Buffers × Int) : Prop where
  restored : ∀ g < count, Recoverable ds ps marks groups g → ∀ i : Fin ds, ∀ x < blockSize,
    result.1 (g * ds + i) x = data g x i
  lost : ∀ g < count, ¬Recoverable ds ps marks groups g → ∀ i : Fin ds,
    result.1 (g * ds + i) = start (g * ds + i)
  other : ∀ p, (∀ g < count, ∀ i < ds, p ≠ g * ds + i) → result.1 p = start p

theorem reconstructGroup_step {rs : ReedSolomon ds ps} (sound : rs.Systematic)
    (holds : ∀ g < groups, Holds rs marks (g * ds) (groups * ds + g * ps) blockSize (data g) start)
    (done : Reconstructed marks blockSize groups data ps start count result) (room : count < groups) :
    Reconstructed marks blockSize groups data ps start (count + 1)
      (reconstructGroup rs marks blockSize (count * ds) (groups * ds + count * ps) result) := by
  obtain ⟨buffers, err⟩ := result
  have fresh : ∀ which : Fin ds ⊕ Fin ps,
      buffers (pointer (count * ds) (groups * ds + count * ps) which) =
        start (pointer (count * ds) (groups * ds + count * ps) which) := by
    intro which
    refine done.other _ fun g before n inside => ?_
    cases which with
    | inl i => exact group_ne i (Nat.ne_of_gt before) inside
    | inr j =>
      have below : g * ds + n < groups * ds := group_lt (Nat.lt_trans before room) inside
      rw [pointer]
      omega
  have holds' : Holds rs marks (count * ds) (groups * ds + count * ps) blockSize (data count) buffers :=
    fun which arrived x within => by rw [fresh which]; exact holds count room which arrived x within
  by_cases enough : Recoverable ds ps marks groups count
  · obtain ⟨after, equal, restored, untouched⟩ := reconstructGroup_restores enough sound holds' err
    have earlier : ∀ g < count, ∀ i : Fin ds, after (g * ds + i) = buffers (g * ds + i) :=
      fun g before i => untouched _ fun n inside => group_ne i (Nat.ne_of_lt before) inside
    rw [equal]
    refine ⟨fun g inside able i x within => ?_, fun g inside unable i => ?_, fun p outside => ?_⟩
    · rcases Nat.lt_succ_iff_lt_or_eq.mp inside with before | rfl
      · exact (congrFun (earlier g before i) x).trans (done.restored g before able i x within)
      · exact restored i x within
    · rcases Nat.lt_succ_iff_lt_or_eq.mp inside with before | rfl
      · exact (earlier g before i).trans (done.lost g before unable i)
      · exact absurd enough unable
    · exact (untouched p fun n inside => outside count (Nat.lt_succ_self count) n inside).trans
        (done.other p fun g before => outside g (Nat.lt_succ_of_lt before))
  · rw [reconstructGroup_fails (Nat.lt_of_not_le enough)]
    refine ⟨fun g inside able i x within => ?_, fun g inside unable i => ?_, fun p outside => ?_⟩
    · rcases Nat.lt_succ_iff_lt_or_eq.mp inside with before | rfl
      · exact done.restored g before able i x within
      · exact absurd able enough
    · rcases Nat.lt_succ_iff_lt_or_eq.mp inside with before | rfl
      · exact done.lost g before unable i
      · exact fresh (.inl i)
    · exact done.other p fun g before => outside g (Nat.lt_succ_of_lt before)

theorem reconstruct_reconstructed {rs : ReedSolomon ds ps} (sound : rs.Systematic)
    (holds : ∀ g < groups, Holds rs marks (g * ds) (groups * ds + g * ps) blockSize (data g) start) :
    Reconstructed marks blockSize groups data ps start groups
      (rs.reconstruct start marks (groups * (ds + ps)) blockSize) := by
  have count : groups * (ds + ps) / (ds + ps) = groups :=
    Nat.mul_div_cancel _ (Nat.add_pos_left sound.positive ps)
  have steps : ∀ count ≤ groups, Reconstructed marks blockSize groups data ps start count
      ((List.range count).foldl (fun result group =>
        reconstructGroup rs marks blockSize (group * ds) (groups * ds + group * ps) result) (start, 0)) := by
    intro count bound
    induction count with
    | zero =>
      exact ⟨fun g none => absurd none (Nat.not_lt_zero g), fun g none => absurd none (Nat.not_lt_zero g),
        fun _ _ => rfl⟩
    | succ count ih =>
      rw [List.range_succ, List.foldl_append, List.foldl_cons, List.foldl_nil]
      exact reconstructGroup_step sound holds (ih (Nat.le_of_succ_le bound)) bound
  unfold reconstruct
  rw [count]
  exact steps groups (Nat.le_refl groups)

theorem reconstructGroup_error {rs : ReedSolomon ds ps} (result : Buffers × Int) :
    (reconstructGroup rs marks blockSize (group * ds) (groups * ds + group * ps) result).2 =
      if Recoverable ds ps marks groups group then result.2 else -1 := by
  obtain ⟨buffers, err⟩ := result
  by_cases enough : Recoverable ds ps marks groups group
  · rw [if_pos enough]
    by_cases some : (erasedIn marks (group * ds) ds).length > 0
    · rw [reconstructGroup_enough enough some]
    · unfold reconstructGroup
      unfold erasedIn at some
      dsimp only
      rw [if_neg some]
  · rw [if_neg enough, reconstructGroup_fails (Nat.lt_of_not_le enough)]

/-- Whether the reconstruction succeeds depends on what arrived and not on what it holds. -/
theorem reconstruct_error {rs : ReedSolomon ds ps} (groups : Nat) (positive : 0 < ds) (start : Buffers) :
    (rs.reconstruct start marks (groups * (ds + ps)) blockSize).2 =
      if ∀ g < groups, Recoverable ds ps marks groups g then 0 else -1 := by
  have count : groups * (ds + ps) / (ds + ps) = groups :=
    Nat.mul_div_cancel _ (Nat.add_pos_left positive ps)
  have steps : ∀ count, ((List.range count).foldl (fun result group =>
      reconstructGroup rs marks blockSize (group * ds) (groups * ds + group * ps) result) (start, 0)).2 =
        if ∀ g < count, Recoverable ds ps marks groups g then 0 else -1 := by
    intro count
    induction count with
    | zero => exact (if_pos fun g none => absurd none (Nat.not_lt_zero g)).symm
    | succ count ih =>
      rw [List.range_succ, List.foldl_append, List.foldl_cons, List.foldl_nil, reconstructGroup_error, ih]
      simp only [Nat.forall_lt_succ_right]
      by_cases last : Recoverable ds ps marks groups count
      · rw [if_pos last]
        exact if_congr (and_iff_left last).symm rfl rfl
      · rw [if_neg last, if_neg fun all => last all.2]
  unfold reconstruct
  rw [count]
  exact steps groups

/-! ## Encoding -/

/-- The shards of the first `count` groups of sums are there. -/
structure Encoded (rs : ReedSolomon ds ps) (blockSize groups : Nat) (start : Buffers) (count : Nat)
    (buffers : Buffers) : Prop where
  sums : ∀ g < count, ∀ j : Fin ps, ∀ x < blockSize, buffers (groups * ds + g * ps + j) x =
    ∑ c : Fin ds, rs.parity j c * start (g * ds + c) x
  other : ∀ p, (∀ g < count, ∀ j < ps, p ≠ groups * ds + g * ps + j) → buffers p = start p

theorem sums_ne (j : Fin ps) (other : g ≠ h) (inside : n < ps) :
    groups * ds + g * ps + j ≠ groups * ds + h * ps + n := by
  rw [Nat.add_assoc, Nat.add_assoc]
  exact fun same => group_ne j other inside (Nat.add_left_cancel same)

theorem encode_step {rs : ReedSolomon ds ps} (sound : rs.Systematic)
    (done : Encoded rs blockSize groups start count buffers) (room : count < groups) :
    Encoded rs blockSize groups start (count + 1)
      (codeSomeShards rs.parity (fun c => count * ds + c) (fun iRow => groups * ds + count * ps + iRow)
        ps blockSize buffers) := by
  have source : ∀ c : Fin ds, ∀ n, groups * ds + n ≠ count * ds + c := fun c n same => by
    have below : count * ds + c.val < groups * ds := group_lt room c.isLt
    omega
  have inputs : ∀ c : Fin ds, buffers (count * ds + c) = start (count * ds + c) := fun c =>
    done.other _ fun g _ j _ same => source c (g * ps + j) ((Nat.add_assoc _ _ _).symm.trans same.symm)
  have distinct : Set.InjOn (fun iRow => groups * ds + count * ps + iRow) (Set.Iio ps) :=
    (add_right_injective _).injOn
  refine ⟨fun g inside j x within => ?_, fun p outside => ?_⟩
  · rcases Nat.lt_succ_iff_lt_or_eq.mp inside with before | rfl
    · rw [codeSomeShards_other fun iRow inside => (sums_ne j (Nat.ne_of_lt before) inside).symm]
      exact done.sums g before j x within
    · refine (codeSomeShards_output distinct (fun iRow _ c => by rw [Nat.add_assoc]; exact source c _) j.isLt within
        sound.positive (ErasureCode.Superregular.ne_zero sound.regular j _)).trans ?_
      exact Finset.sum_congr rfl fun c _ => by rw [inputs]
  · rw [codeSomeShards_other fun iRow inside same =>
      outside count (Nat.lt_succ_self count) iRow inside same.symm]
    exact done.other p fun g before => outside g (Nat.lt_succ_of_lt before)

theorem encode_encoded {rs : ReedSolomon ds ps} (sound : rs.Systematic) (buffers : Buffers)
    (groups blockSize : Nat) :
    Encoded rs blockSize groups buffers groups (rs.encode buffers (groups * (ds + ps)) blockSize) := by
  have positive : 0 < ds + ps := Nat.add_pos_left sound.positive ps
  have count : groups * (ds + ps) / (ds + ps) = groups := Nat.mul_div_cancel _ positive
  have rounds : (groups * (ds + ps) + (ds + ps) - 1) / (ds + ps) = groups := by
    rw [Nat.add_sub_assoc positive, Nat.mul_comm, Nat.mul_add_div positive,
      Nat.div_eq_of_lt (Nat.sub_lt positive Nat.one_pos), Nat.add_zero]
  have steps : ∀ count ≤ groups, Encoded rs blockSize groups buffers count
      ((List.range count).foldl (fun buffers group =>
        codeSomeShards rs.parity (fun c => group * ds + c) (fun iRow => groups * ds + group * ps + iRow)
          ps blockSize buffers) buffers) := by
    intro count bound
    induction count with
    | zero => exact ⟨fun g none => absurd none (Nat.not_lt_zero g), fun _ _ => rfl⟩
    | succ count ih =>
      rw [List.range_succ, List.foldl_append, List.foldl_cons, List.foldl_nil]
      exact encode_step sound (ih (Nat.le_of_succ_le bound)) bound
  unfold encode
  rw [count, rounds]
  exact steps groups (Nat.le_refl groups)

/-! ## The codes that are made -/

theorem byte_sub (a b : Nat) : (⟨UInt8.ofNat a⟩ - ⟨UInt8.ofNat b⟩ : Gf) = ⟨UInt8.ofNat (a ^^^ b)⟩ := by
  rw [Gf.sub_eq_add]
  exact Gf.ext (UInt8.ofNat_xor a b).symm

theorem byte_injective (small : a < 256) (small' : b < 256)
    (same : (⟨UInt8.ofNat a⟩ : Gf) = ⟨UInt8.ofNat b⟩) : a = b := by
  have bytes := congrArg (UInt8.toNat ∘ Gf.byte) same
  simp only [Function.comp_apply, UInt8.toNat_ofNat'] at bytes
  omega

theorem foldl_add (f : α → Gf) (l : List α) (tg : Gf) :
    l.foldl (fun tg i => tg + f i) tg = tg + (l.map f).sum := by
  induction l generalizing tg with
  | nil => rw [List.foldl_nil, List.map_nil, List.sum_nil, add_zero]
  | cons x rest ih => rw [List.foldl_cons, ih, List.map_cons, List.sum_cons, add_assoc]

theorem multiply1_eq (a : Nat → Fin ds → Gf) (b : Matrix (Fin ds) (Fin ds) Gf) (r : Nat) (c : Fin ds) :
    multiply1 a b r c = ∑ i, a r i * b i c := by
  rw [multiply1, foldl_add, zero_add, Fin.sum_univ_def]

/-- Above the sums stands the unit matrix, which is its own inverse. -/
theorem unit_rows (ds : Nat) : invertMat (fun (row col : Fin ds) => if row.val = col.val then (1 : Gf) else 0) =
    (1, none) := by
  have unit : (fun (row col : Fin ds) => if row.val = col.val then (1 : Gf) else 0) =
      (1 : Matrix (Fin ds) (Fin ds) Gf) := by
    funext row col
    rw [Matrix.one_apply]
    exact if_congr Fin.ext_iff.symm rfl rfl
  rw [unit, invertMat_of_det _ (by rw [Matrix.det_one]; exact one_ne_zero), inv_one]

theorem reedSolomonNew_eq (made : reedSolomonNew ds ps = some rs) :
    0 < ds ∧ ds + ps ≤ DATA_SHARDS_MAX ∧ (∀ i : Fin ds, rs.m i = Pi.single i 1) ∧
      (∀ j, rs.m (ds + j) = rs.parity j) ∧
      ∀ j, ∀ i : Fin ds, rs.parity j i = (⟨UInt8.ofNat (ps + i)⟩ - ⟨UInt8.ofNat j⟩)⁻¹ := by
  unfold reedSolomonNew at made
  by_cases limits : ds + ps > DATA_SHARDS_MAX ∨ ds = 0 ∨ ps = 0
  · rw [if_pos limits] at made
    exact absurd made (Option.some_ne_none rs).symm
  obtain ⟨bound, some, _⟩ := not_or.mp limits |>.imp_right not_or.mp
  rw [if_neg limits] at made
  simp only [unit_rows, Option.some.injEq] at made
  subst made
  refine ⟨Nat.pos_of_ne_zero some, Nat.le_of_not_lt bound, fun i => ?_, fun j => rfl, fun j i => ?_⟩
  · funext c
    dsimp only
    rw [if_neg (Nat.not_le.mpr i.isLt), multiply1_eq]
    have whole := congrFun (Matrix.vecMul_one fun x : Fin ds => if i.val = x.val then (1 : Gf) else 0) c
    exact whole.trans ((if_congr (eq_comm.trans Fin.ext_iff.symm) rfl rfl).trans (Pi.single_apply i 1 c).symm)
  · dsimp only
    rw [if_pos (Nat.le_add_right ds j), Nat.add_sub_cancel_left, byte_sub]
    rfl

/-- The coefficients are the inverses of the differences between the numbers of the
data shards, which follow those of the parity shards, and the latter. -/
theorem systematic (made : reedSolomonNew ds ps = some rs) : rs.Systematic := by
  obtain ⟨positive, bound, data, sums, parity⟩ := reedSolomonNew_eq made
  refine ⟨positive, data, fun j => sums j, ?_⟩
  have bytes : ∀ n < ds + ps, n < 256 := fun n inside =>
    Nat.lt_of_lt_of_le inside (Nat.le_trans bound (by decide))
  have cauchy : (Matrix.of fun j : Fin ps => rs.parity j) = Matrix.of fun (j : Fin ps) (i : Fin ds) =>
      ((⟨UInt8.ofNat (ps + i)⟩ : Gf) - ⟨UInt8.ofNat j⟩)⁻¹ := by
    ext j i
    rw [Matrix.of_apply, Matrix.of_apply, parity]
  rw [cauchy]
  refine ErasureCode.superregular_inv_sub (x := fun j : Fin ps => (⟨UInt8.ofNat j⟩ : Gf))
    (y := fun i : Fin ds => (⟨UInt8.ofNat (ps + i)⟩ : Gf)) ?_ ?_ ?_
  · exact fun j j' same => Fin.ext (byte_injective (bytes j (by omega)) (bytes j' (by omega)) same)
  · exact fun i i' same => Fin.ext (Nat.add_left_cancel
      (byte_injective (bytes (ps + i) (by omega)) (bytes (ps + i') (by omega)) same))
  · intro j i same
    have := byte_injective (bytes (ps + i) (by omega)) (bytes j (by omega)) same
    omega

/-- Whatever is lost, and whatever its buffers hold, every group of which as many
parity shards as lost data shards arrive gets its data back. The other groups are
left as they are, which the result says. -/
theorem reconstruct_encode (made : reedSolomonNew ds ps = some rs) (groups blockSize : Nat)
    (buffers damaged : Buffers) (marks : Nat → Bool)
    (arrived : ∀ p < groups * (ds + ps), marks p = false → ∀ x < blockSize,
      damaged p x = rs.encode buffers (groups * (ds + ps)) blockSize p x) :
    (∀ g < groups, Recoverable ds ps marks groups g → ∀ i : Fin ds, ∀ x < blockSize,
        (rs.reconstruct damaged marks (groups * (ds + ps)) blockSize).1 (g * ds + i) x =
          buffers (g * ds + i) x) ∧
      (∀ g < groups, ¬Recoverable ds ps marks groups g → ∀ i : Fin ds,
        (rs.reconstruct damaged marks (groups * (ds + ps)) blockSize).1 (g * ds + i) =
          damaged (g * ds + i)) ∧
      (∀ p ≥ groups * ds, (rs.reconstruct damaged marks (groups * (ds + ps)) blockSize).1 p = damaged p) ∧
      (rs.reconstruct damaged marks (groups * (ds + ps)) blockSize).2 =
        if ∀ g < groups, Recoverable ds ps marks groups g then 0 else -1 := by
  have sound := systematic made
  have encoded := encode_encoded sound buffers groups blockSize
  have holds : ∀ g < groups, Holds rs marks (g * ds) (groups * ds + g * ps) blockSize
      (fun x i => buffers (g * ds + i) x) damaged := by
    intro g inside which present x within
    have size : groups * (ds + ps) = groups * ds + groups * ps := Nat.mul_add _ _ _
    cases which with
    | inl i =>
      have below : g * ds + i.val < groups * ds := group_lt inside i.isLt
      rw [pointer] at present ⊢
      rw [arrived _ (by omega) present x within, encoded.other _ fun h _ j _ => by omega]
      rfl
    | inr j =>
      have below : g * ps + j.val < groups * ps := group_lt inside j.isLt
      rw [pointer] at present ⊢
      rw [arrived _ (by omega) present x within, encoded.sums g inside j x within]
      rfl
  have done := reconstruct_reconstructed sound holds
  exact ⟨done.restored, done.lost, fun p outside => done.other p fun g inside i within same => by
    have below : g * ds + i < groups * ds := group_lt inside within
    omega, reconstruct_error groups sound.positive damaged⟩

/-- The first of two data shards is lost. -/
theorem reconstruct_encode_two : ∃ rs : ReedSolomon 2 1, reedSolomonNew 2 1 = some rs ∧ ∀ x < 3,
    (rs.reconstruct (fun p x => if p = 0 then 0 else
        rs.encode (fun p x => ⟨UInt8.ofNat (p + x)⟩) (1 * (2 + 1)) 3 p x)
      (fun p => p = 0) (1 * (2 + 1)) 3).1 0 x = ⟨UInt8.ofNat x⟩ := by
  obtain ⟨rs, made⟩ : ∃ rs, reedSolomonNew 2 1 = some rs := ⟨_, rfl⟩
  refine ⟨rs, made, fun x within => ?_⟩
  have restored := (reconstruct_encode made 1 3 (fun p x => ⟨UInt8.ofNat (p + x)⟩) (fun p x =>
    if p = 0 then 0 else rs.encode (fun p x => ⟨UInt8.ofNat (p + x)⟩) (1 * (2 + 1)) 3 p x) (fun p => p = 0)
    fun p _ present y _ => if_neg (of_decide_eq_false present)).1 0 Nat.one_pos (by decide) 0 x within
  have place : 0 * 2 + ((0 : Fin 2) : Nat) = 0 := rfl
  rw [place, Nat.zero_add] at restored
  exact restored

end ReedSolomon

end MoonlightWeb.MoonlightCommonC
