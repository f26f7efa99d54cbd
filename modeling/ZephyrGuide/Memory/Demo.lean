import ZephyrGuide.Kernel.Slab
import ZephyrGuide.Libc.Printf

/-!
# The memory example: a slab emptied and filled again

`docs/examples/part3/memory/src/main.c`.  `main` prints a banner and runs three demos in turn.
`demo_system_heap` formats a message into 64 bytes from `k_malloc` and prints ten squares;
`demo_k_heap` makes four allocations from a 1024-byte heap and frees three; `demo_mem_slab`
allocates from `my_slab` eight times into `blocks[8]`, counting the successes in `allocated`,
tries a ninth allocation, expected to fail, and frees `blocks[0]` to `blocks[allocated - 1]`.

* **The slab demo gives back every block it takes** (`demoMemSlab_returns_blocks`), whatever
  state the slab is in: it never frees `NULL` or a block it does not hold, and afterwards the
  slab's free list is the eight blocks it took, in reverse order, ahead of what was left.  The
  loop that frees reads `blocks[i]` for `i < allocated`, which is right only because the
  successful allocations come first: once one fails the free list is empty and every later one
  fails too.  Only when the slab has more than eight free blocks does the ninth allocation
  succeed, and that block, in `extra`, is never freed.
* **What the slab demo prints** (`demoMemSlab_output`): a line per block it obtained, the count
  of blocks and of free ones, the failure of the ninth, and the free count at the end.

`K_MEM_SLAB_DEFINE(my_slab, 32, 8, 4)` makes eight blocks and nothing else uses the slab, so in
the program `demo_mem_slab` finds eight free blocks; both results are stated for any slab, which
is what `demo_mem_slab` as a function does.  The two heaps are the kernel's allocators, whose code
is not part of the guide: each `k_malloc` and `k_heap_alloc` is modelled by what it returns
(`Answers`), and what is written into the blocks is not kept, since nothing reads it back but the
`printk` that follows.
-/

set_option autoImplicit false

namespace ZephyrGuide
namespace Memory

open Libc

/-! ## `demo_system_heap` and `demo_k_heap` -/

/-- What the allocators return: whether each `k_malloc` gives a buffer, and the address each
`k_heap_alloc` gives, if any. -/
structure Answers where
  msg : Bool
  data : Bool
  buf1 : Option Nat
  buf2 : Option Nat
  buf3 : Option Nat
  buf4 : Option Nat
  deriving DecidableEq, Repr

/-- `demo_system_heap()` on board `board` (`CONFIG_BOARD`).  `printk("%s", msg)` prints what
`snprintf` stored, the first 63 characters of the message. -/
def demoSystemHeap (board : List Char) (ans : Answers) : List (List Char) :=
  ["\n--- System Heap (k_malloc/k_free) Demo ---\n".toList,
      "CONFIG_HEAP_MEM_POOL_SIZE = 4096\n".toList] ++
    (if ans.msg then
      ["Message: ".toList ++ (snprintf 64 ("Hello from k_malloc on ".toList ++ board ++ "!".toList)).1 ++
        "\n".toList, "Freed string buffer\n".toList]
    else ["k_malloc failed!\n".toList]) ++
    (if ans.data then
      ["Array: ".toList] ++ (List.range 10).map (fun i => fmtInt 0 (i * i) ++ " ".toList) ++
        ["\n".toList, "Freed array\n".toList]
    else [])

/-- `printk("Allocated %d bytes at %p\n", buf)` for a buffer at `addr`: `%p` prints `0x` and the
address in hexadecimal. -/
def allocatedLine (size addr : Nat) : List Char :=
  "Allocated ".toList ++ fmtInt 0 size ++ " bytes at 0x".toList ++ fmtHex 0 addr ++ "\n".toList

/-- `demo_k_heap()`.  `k_heap_free` of `NULL` does nothing. -/
def demoKHeap (ans : Answers) : List (List Char) :=
  ["\n--- k_heap Demo ---\n".toList] ++
    ans.buf1.toList.map (allocatedLine 64) ++ ans.buf2.toList.map (allocatedLine 128) ++
    ans.buf3.toList.map (allocatedLine 256) ++
    (if ans.buf4 = none then ["Allocation of 800 bytes failed (expected - heap full)\n".toList]
      else []) ++
    ["Freed 128-byte block\n".toList, "Freed 64-byte block\n".toList, "Freed 256-byte block\n".toList,
      "k_heap demo complete\n".toList]

/-! ## `demo_mem_slab` -/

variable {β : Type}

/-- The locals of `demo_mem_slab` that outlive a statement, and what it has printed: `blocks[8]`
(`none` is `NULL`; an entry is read only after the allocation loop has written it), `allocated`,
and the slab. -/
structure SlabDemo (β : Type) where
  slab : KMemSlab β
  blocks : Nat → Option β
  allocated : Nat
  out : List (List Char)

/-- `printk` of `line`. -/
def SlabDemo.print (d : SlabDemo β) (line : List Char) : SlabDemo β := { d with out := d.out ++ [line] }

@[simp] theorem SlabDemo.print_slab (d : SlabDemo β) (line : List Char) :
    (d.print line).slab = d.slab := rfl
@[simp] theorem SlabDemo.print_blocks (d : SlabDemo β) (line : List Char) :
    (d.print line).blocks = d.blocks := rfl
@[simp] theorem SlabDemo.print_allocated (d : SlabDemo β) (line : List Char) :
    (d.print line).allocated = d.allocated := rfl
@[simp] theorem SlabDemo.print_out (d : SlabDemo β) (line : List Char) :
    (d.print line).out = d.out ++ [line] := rfl

/-- `printk("Block %d: temp=%d.%d C, hum=%d.%d%%\n", ...)` for block `i`, whose `temperature` is
`2500 + i * 10` and whose `humidity` is `600 - i * 5`. -/
def blockLine (i : Nat) : List Char :=
  let temperature : Int := 2500 + i * 10
  let humidity : Int := 600 - i * 5
  "Block ".toList ++ fmtInt 0 i ++ ": temp=".toList ++ fmtInt 0 (temperature.tdiv 100) ++
    '.' :: fmtInt 0 (temperature.tmod 100) ++ " C, hum=".toList ++ fmtInt 0 (humidity.tdiv 10) ++
    '.' :: fmtInt 0 (humidity.tmod 10) ++ "%\n".toList

/-- A round of `for (int i = 0; i < 8; i++)`: `k_mem_slab_alloc` into `blocks[i]`, which it sets
to `NULL` when it fails; on success, the block's line. -/
def allocRound (d : SlabDemo β) (i : Nat) : SlabDemo β :=
  match d.slab.alloc with
  | some (slab, b) =>
    ({ d with slab, blocks := fun j => if j = i then some b else d.blocks j,
               allocated := d.allocated + 1 } : SlabDemo β).print (blockLine i)
  | none => { d with blocks := fun j => if j = i then none else d.blocks j }

/-! ### The allocation loop -/

/-- What the allocation loop has done after `n` rounds, on a slab that was `slab` and with `out`
printed before it: the first `n` free blocks (as many as there were) are taken, in `blocks[0]`
to `blocks[n - 1]`, and each has its line. -/
structure AllocInv (slab : KMemSlab β) (out : List (List Char)) (n : Nat) (d : SlabDemo β) :
    Prop where
  freeList : d.slab.freeList = slab.freeList.drop n
  used : d.slab.used = (slab.freeList.take n).reverse ++ slab.used
  allocated : d.allocated = (slab.freeList.take n).length
  blocks : ∀ j, d.blocks j = if j < n then slab.freeList[j]? else none
  out : d.out = out ++ (List.range (slab.freeList.take n).length).map blockLine

theorem allocInv_zero (slab : KMemSlab β) (out : List (List Char)) :
    AllocInv slab out 0 ⟨slab, fun _ => none, 0, out⟩ :=
  ⟨rfl, rfl, rfl, fun _ => rfl, (List.append_nil _).symm⟩

/-- A round that finds a free block takes it, into `blocks[n]`. -/
theorem AllocInv.succ_of_cons {slab : KMemSlab β} {out : List (List Char)} {n : Nat}
    {d : SlabDemo β} (h : AllocInv slab out n d) {b : β} {rest : List β}
    (hd : slab.freeList.drop n = b :: rest) : AllocInv slab out (n + 1) (allocRound d n) := by
  have hb : slab.freeList[n]? = some b := by rw [← List.head?_drop, hd]; rfl
  have hn : n < slab.freeList.length := by
    have := List.length_drop n slab.freeList
    rw [hd, List.length_cons] at this
    omega
  have htake : slab.freeList.take (n + 1) = slab.freeList.take n ++ [b] := by
    rw [List.take_succ, hb]; rfl
  have hl : (slab.freeList.take n).length = n := by rw [List.length_take]; omega
  obtain ⟨t, ht, htf, htu⟩ := KMemSlab.alloc_of_cons (h.freeList.trans hd)
  unfold allocRound
  rw [ht]
  dsimp only [SlabDemo.print]
  refine ⟨?_, ?_, ?_, fun j => ?_, ?_⟩
  · rw [htf, ← List.drop_drop, hd]; rfl
  · rw [htu, h.used, htake, List.reverse_append]; rfl
  · rw [h.allocated, htake, List.length_append]; rfl
  · show (if j = n then some b else d.blocks j) = _
    by_cases hj : j = n
    · rw [if_pos hj, if_pos (by omega), hj, hb]
    · rw [if_neg hj, h.blocks]
      split_ifs <;> first | rfl | omega
  · show d.out ++ [blockLine n] = _
    rw [h.out, htake, List.length_append, hl, List.length_singleton, List.range_succ,
      List.map_append, List.append_assoc]
    rfl

/-- A round that finds the free list empty takes nothing. -/
theorem AllocInv.succ_of_nil {slab : KMemSlab β} {out : List (List Char)} {n : Nat}
    {d : SlabDemo β} (h : AllocInv slab out n d) (hd : slab.freeList.drop n = []) :
    AllocInv slab out (n + 1) (allocRound d n) := by
  have hn : slab.freeList.length ≤ n := List.drop_eq_nil_iff.1 hd
  have htake : slab.freeList.take (n + 1) = slab.freeList.take n := by
    rw [List.take_of_length_le (by omega), List.take_of_length_le hn]
  unfold allocRound
  rw [KMemSlab.alloc_of_nil (h.freeList.trans hd)]
  refine ⟨?_, htake ▸ h.used, htake ▸ h.allocated, fun j => ?_, htake ▸ h.out⟩
  · exact h.freeList.trans (hd.trans (List.drop_eq_nil_of_le (by omega)).symm)
  · show (if j = n then none else d.blocks j) = _
    by_cases hj : j = n
    · rw [if_pos hj, if_pos (by omega), hj, List.getElem?_eq_none hn]
    · rw [if_neg hj, h.blocks]
      split_ifs <;> first | rfl | omega

theorem AllocInv.succ {slab : KMemSlab β} {out : List (List Char)} {n : Nat} {d : SlabDemo β}
    (h : AllocInv slab out n d) : AllocInv slab out (n + 1) (allocRound d n) := by
  cases hd : slab.freeList.drop n with
  | nil => exact h.succ_of_nil hd
  | cons b rest => exact h.succ_of_cons hd

/-- **The allocation loop.** -/
theorem allocInv_foldl (slab : KMemSlab β) (out : List (List Char)) (n : Nat) :
    AllocInv slab out n ((List.range n).foldl allocRound ⟨slab, fun _ => none, 0, out⟩) := by
  induction n with
  | zero => exact allocInv_zero slab out
  | succ n ih =>
    rw [List.range_succ, List.foldl_append]
    exact ih.succ

section Free

variable [DecidableEq β]

/-- A round of `for (int i = 0; i < allocated; i++)`: `k_mem_slab_free(&my_slab, blocks[i])`.
Freeing `NULL` is undefined, and gives `none`. -/
def freeRound (blocks : Nat → Option β) (slab : Option (KMemSlab β)) (i : Nat) :
    Option (KMemSlab β) :=
  slab.bind fun s => (blocks i).bind s.free

/-- `demo_mem_slab()` on `my_slab` in state `slab`: the slab afterwards and the lines printed, or
`none` if the demo does something undefined. -/
def demoMemSlab (slab : KMemSlab β) : Option (KMemSlab β × List (List Char)) :=
  let d : SlabDemo β := ⟨slab, fun _ => none, 0, ["\n--- Memory Slab Demo ---\n".toList,
    "Slab: ".toList ++ fmtInt 0 8 ++ " blocks of 32 bytes (".toList ++ fmtInt 0 slab.numFreeGet ++
      " free)\n".toList]⟩
  let d := (List.range 8).foldl allocRound d
  let d := d.print ("Allocated ".toList ++ fmtInt 0 d.allocated ++ " blocks (".toList ++
    fmtInt 0 d.slab.numFreeGet ++ " free)\n".toList)
  let d := match d.slab.alloc with
    | some (slab, _) => { d with slab }
    | none => d.print "9th allocation failed (expected - slab full)\n".toList
  ((List.range d.allocated).foldl (freeRound d.blocks) (some d.slab)).map fun slab =>
    (slab, d.out ++ ["Freed all blocks (".toList ++ fmtInt 0 slab.numFreeGet ++ " free)\n".toList])

/-! ### The loop that frees, and the whole demo -/

/-- The loop that frees `blocks[0]` to `blocks[l.length - 1]`, when these hold the blocks `l`,
frees the blocks of `l` in order. -/
theorem foldl_freeRound (l : List β) (blocks : Nat → Option β)
    (hb : ∀ j < l.length, blocks j = l[j]?) (o : Option (KMemSlab β)) :
    (List.range l.length).foldl (freeRound blocks) o = l.foldl (fun o b => o.bind (·.free b)) o := by
  induction l generalizing blocks o with
  | nil => rfl
  | cons b l ih =>
    rw [List.length_cons, List.range_succ_eq_map, List.foldl_cons, List.foldl_map, List.foldl_cons]
    have h0 : freeRound blocks o 0 = o.bind (·.free b) := by
      simp only [freeRound, hb 0 (Nat.zero_lt_succ _), List.getElem?_cons_zero, Option.some_bind]
    rw [h0]
    exact ih (fun j => blocks (j + 1))
      (fun j hj => (hb (j + 1) (Nat.succ_lt_succ hj)).trans List.getElem?_cons_succ) _

/-- After the allocation loop, the loop that frees gives back the blocks taken, in order, to any
slab that holds them. -/
theorem AllocInv.freeLoop {slab : KMemSlab β} {out : List (List Char)} {d : SlabDemo β}
    (h : AllocInv slab out 8 d) {s : KMemSlab β} (hs : ∀ b ∈ slab.freeList.take 8, b ∈ s.used) :
    ∃ t, (List.range d.allocated).foldl (freeRound d.blocks) (some s) = some t ∧
      t.freeList = (slab.freeList.take 8).reverse ++ s.freeList ∧
      s.used.Perm (slab.freeList.take 8 ++ t.used) := by
  have hb : ∀ j < (slab.freeList.take 8).length, d.blocks j = (slab.freeList.take 8)[j]? :=
    fun j hj => by
      rw [List.length_take] at hj
      rw [h.blocks, if_pos (by omega), List.getElem?_take_of_lt (by omega)]
  rw [h.allocated, foldl_freeRound _ _ hb]
  exact KMemSlab.foldl_free
    (slab.nodup.sublist ((List.take_sublist 8 _).trans (List.sublist_append_left _ _))) hs

/-- What `demo_mem_slab` prints when the slab has `k` free blocks: a line for each of the
`min 8 k` blocks it gets, `k - 8` blocks left free, the ninth allocation's failure when there
were at most eight, and the free count at the end, one less than at the start if a ninth block
was taken. -/
def slabLines (k : Nat) : List (List Char) :=
  ["\n--- Memory Slab Demo ---\n".toList,
      "Slab: ".toList ++ fmtInt 0 8 ++ " blocks of 32 bytes (".toList ++ fmtInt 0 k ++
        " free)\n".toList] ++
    (List.range (min 8 k)).map blockLine ++
    ["Allocated ".toList ++ fmtInt 0 (min 8 k : Nat) ++ " blocks (".toList ++
      fmtInt 0 (k - 8 : Nat) ++ " free)\n".toList] ++
    (if k ≤ 8 then ["9th allocation failed (expected - slab full)\n".toList] else []) ++
    ["Freed all blocks (".toList ++ fmtInt 0 (if k ≤ 8 then k else k - 1 : Nat) ++
      " free)\n".toList]

/-- The whole of `demo_mem_slab`, from any slab: it does nothing undefined, prints `slabLines`,
and leaves the slab with the eight blocks it took back on the free list and a ninth, if it got
one, still taken. -/
theorem demoMemSlab_eq (slab : KMemSlab β) :
    ∃ slab', demoMemSlab slab = some (slab', slabLines slab.numFreeGet) ∧
      slab'.freeList = (slab.freeList.take 8).reverse ++ slab.freeList.drop 9 ∧
      slab'.used.Perm ((slab.freeList.drop 8).take 1 ++ slab.used) := by
  have h := allocInv_foldl slab ["\n--- Memory Slab Demo ---\n".toList,
    "Slab: ".toList ++ fmtInt 0 8 ++ " blocks of 32 bytes (".toList ++ fmtInt 0 slab.numFreeGet ++
      " free)\n".toList] 8
  simp only [demoMemSlab]
  generalize (List.range 8).foldl allocRound _ = d at h ⊢
  have hused : ∀ b ∈ slab.freeList.take 8, b ∈ d.slab.used := fun b hb =>
    h.used ▸ List.mem_append_left _ (List.mem_reverse.2 hb)
  have hlen : slab.numFreeGet = slab.freeList.length := rfl
  have e1 : d.allocated = min 8 slab.numFreeGet := h.allocated.trans (List.length_take _ _)
  have e2 : d.slab.numFreeGet = slab.numFreeGet - 8 := by
    rw [KMemSlab.numFreeGet, h.freeList, List.length_drop, hlen]
  have hrev : (slab.freeList.take 8).reverse.Perm (slab.freeList.take 8) := List.reverse_perm _
  cases h9 : slab.freeList.drop 8 with
  | nil =>
    have hk : slab.numFreeGet ≤ 8 := List.drop_eq_nil_iff.1 h9
    obtain ⟨t, ht, htf, htu⟩ := h.freeLoop hused
    rw [SlabDemo.print_slab, KMemSlab.alloc_of_nil (h.freeList.trans h9)]
    simp only [SlabDemo.print_slab, SlabDemo.print_blocks, SlabDemo.print_allocated,
      SlabDemo.print_out, ht, Option.map_some']
    have e3 : t.numFreeGet = slab.numFreeGet := by
      rw [KMemSlab.numFreeGet, htf, h.freeList, h9, List.append_nil, List.length_reverse,
        List.length_take, ← hlen, Nat.min_eq_right hk]
    refine ⟨t, ?_, ?_, ?_⟩
    · rw [e3, h.out, e1, e2, h.allocated.symm.trans e1]
      simp only [slabLines, if_pos hk, List.append_assoc, List.singleton_append]
    · rw [htf, h.freeList, h9, List.drop_eq_nil_of_le (Nat.le_succ_of_le hk)]
    · exact ((List.perm_append_left_iff _).1 ((hrev.append_right _).symm.trans (h.used ▸ htu))).symm
  | cons c rest =>
    have hk : 8 < slab.numFreeGet := by
      have := List.length_drop 8 slab.freeList
      rw [h9, List.length_cons, ← hlen] at this
      omega
    obtain ⟨t₀, ht₀, htf₀, htu₀⟩ := KMemSlab.alloc_of_cons (h.freeList.trans h9)
    obtain ⟨t, ht, htf, htu⟩ := h.freeLoop (s := t₀)
      (fun b hb => htu₀ ▸ List.mem_cons_of_mem _ (hused b hb))
    rw [SlabDemo.print_slab, ht₀]
    simp only [SlabDemo.print_slab, SlabDemo.print_blocks, SlabDemo.print_allocated,
      SlabDemo.print_out, ht, Option.map_some']
    have h9' : slab.freeList.drop 9 = rest := by rw [← List.drop_drop 1 8, h9]; rfl
    have e3 : t.numFreeGet = slab.numFreeGet - 1 := by
      rw [KMemSlab.numFreeGet, htf, htf₀, List.length_append, List.length_reverse,
        List.length_take, ← h9', List.length_drop, ← hlen]
      omega
    refine ⟨t, ?_, by rw [htf, htf₀, h9'], ?_⟩
    · rw [e3, h.out, e1, e2, h.allocated.symm.trans e1]
      simp only [slabLines, if_neg (Nat.not_le.2 hk), List.append_assoc, List.singleton_append,
        List.nil_append]
    · refine (List.perm_append_left_iff (slab.freeList.take 8)).1 ((htu₀ ▸ htu).symm.trans ?_)
      rw [h.used]
      exact List.perm_middle.symm.trans (hrev.append_right _)

/-- **`demo_mem_slab` gives back every block it takes.**  Whatever state the slab is in, the demo
never frees `NULL` or a block it does not hold, puts back on the free list the (up to) eight
blocks it took, and keeps a ninth only if the slab had one to give. -/
theorem demoMemSlab_returns_blocks (slab : KMemSlab β) :
    ∃ slab' out, demoMemSlab slab = some (slab', out) ∧
      slab'.freeList = (slab.freeList.take 8).reverse ++ slab.freeList.drop 9 ∧
      slab'.used.Perm ((slab.freeList.drop 8).take 1 ++ slab.used) :=
  let ⟨slab', h, hf, hu⟩ := demoMemSlab_eq slab
  ⟨slab', _, h, hf, hu⟩

/-- **What `demo_mem_slab` prints**, for a slab with any number of free blocks. -/
theorem demoMemSlab_output (slab : KMemSlab β) :
    ∃ slab', demoMemSlab slab = some (slab', slabLines slab.numFreeGet) :=
  let ⟨slab', h, _⟩ := demoMemSlab_eq slab
  ⟨slab', h⟩

/-- `my_slab` as the program defines it: the demo takes all eight blocks, fails the ninth, and
gives the eight back, last taken first. -/
example : (demoMemSlab (KMemSlab.define (List.range 8) (List.nodup_range 8))).map
    (fun r => (r.1.freeList, r.2.getLast?)) =
      some ([7, 6, 5, 4, 3, 2, 1, 0], some "Freed all blocks (8 free)\n".toList) := by
  decide

/-- `main` on board `board`, with `my_slab` in state `slab`: what it prints, or `none` if it does
something undefined. -/
def main (board : List Char) (ans : Answers) (slab : KMemSlab β) : Option (List (List Char)) :=
  (demoMemSlab slab).map fun r =>
    ["\n".toList, "Memory Management Example\n".toList, "=========================\n".toList] ++
      demoSystemHeap board ans ++ demoKHeap ans ++ r.2 ++ ["\nAll memory demos complete.\n".toList]

end Free

end Memory
end ZephyrGuide
