import CallGraph.Bytes
import Mathlib.Data.List.Basic

/-!
# Writing what readers read

The bytes of numbers and of tables, and that readers take them from the front of whatever they
begin.

* `Reads r bytes a` says that `r` takes `a` from the front of everything that begins with `bytes`,
  and nothing of what follows.
* `Reads.bind`, `Reads.times` and `Reads.counted` put such statements together along a reader.
-/

namespace CallGraph

namespace Encoding

/-- The two bytes of a number, the most significant one first. -/
def u2 (n : UInt16) : List UInt8 := [UInt8.ofNat (n.toNat / 0x100), UInt8.ofNat n.toNat]

/-- The four bytes of a number, the most significant one first. -/
def u4 (n : UInt32) : List UInt8 :=
  [UInt8.ofNat (n.toNat / 0x1000000), UInt8.ofNat (n.toNat / 0x10000),
    UInt8.ofNat (n.toNat / 0x100), UInt8.ofNat n.toNat]

/-- The number of values in two bytes and then the values. -/
def table {α : Type} (encode : α → List UInt8) (as : List α) : List UInt8 :=
  u2 (.ofNat as.length) ++ as.flatMap encode

@[simp] theorem length_u2 (n : UInt16) : (u2 n).length = 2 := rfl

@[simp] theorem length_u4 (n : UInt32) : (u4 n).length = 4 := rfl

theorem word_u2 (n : UInt16) :
    Reader.word (UInt8.ofNat (n.toNat / 0x100)) (UInt8.ofNat n.toNat) = n := by
  apply UInt16.toNat_inj.mp
  have hn := n.toNat_lt
  simp only [Reader.word, UInt16.toNat_ofNat', UInt8.toNat_ofNat']
  omega

theorem doubleWord_u4 (n : UInt32) :
    Reader.doubleWord (UInt8.ofNat (n.toNat / 0x1000000)) (UInt8.ofNat (n.toNat / 0x10000))
      (UInt8.ofNat (n.toNat / 0x100)) (UInt8.ofNat n.toNat) = n := by
  apply UInt32.toNat_inj.mp
  have hn := n.toNat_lt
  simp only [Reader.doubleWord, UInt32.toNat_ofNat', UInt8.toNat_ofNat']
  omega

end Encoding

namespace Reader

variable {α β : Type}

theorem run_bind {r : Reader α} {f : α → Reader β} {bs rest : List UInt8} {a : α}
    (h : r.run bs = some (a, rest)) : (r >>= f).run bs = (f a).run rest := by
  show (Reader.bind r f).run bs = _
  simp only [Reader.bind, h]

/-- The reader takes the value from the front of everything that begins with the bytes. -/
def Reads (r : Reader α) (bytes : List UInt8) (a : α) : Prop :=
  ∀ rest, r.run (bytes ++ rest) = some (a, rest)

namespace Reads

variable {r : Reader α} {f : α → Reader β} {bytes bytes' : List UInt8} {a : α} {b : β}

theorem pure (a : α) : Reads (Pure.pure a) [] a := fun _ => rfl

theorem bind (hr : Reads r bytes a) (hf : Reads (f a) bytes' b) :
    Reads (r >>= f) (bytes ++ bytes') b := by
  intro rest
  rw [List.append_assoc, run_bind (hr (bytes' ++ rest))]
  exact hf rest

/-- What is returned after the last step. -/
theorem map (hr : Reads r bytes a) (g : α → β) :
    Reads (r >>= fun x => Pure.pure (g x)) bytes (g a) := by
  intro rest
  rw [run_bind (hr rest)]
  rfl

theorem u1 (b : UInt8) : Reads u1 [b] b := fun _ => rfl

theorem u2 (n : UInt16) : Reads u2 (Encoding.u2 n) n := by
  have h : Reads Reader.u2 _ _ := (u1 (UInt8.ofNat (n.toNat / 0x100))).bind
    ((u1 (UInt8.ofNat n.toNat)).map _)
  rwa [Encoding.word_u2] at h

theorem u4 (n : UInt32) : Reads u4 (Encoding.u4 n) n := by
  have h : Reads Reader.u4 _ _ := (u1 (UInt8.ofNat (n.toNat / 0x1000000))).bind
    ((u1 (UInt8.ofNat (n.toNat / 0x10000))).bind
      ((u1 (UInt8.ofNat (n.toNat / 0x100))).bind ((u1 (UInt8.ofNat n.toNat)).map _)))
  rwa [Encoding.doubleWord_u4] at h

theorem take (bytes : List UInt8) : Reads (take bytes.length) bytes bytes := by
  intro rest
  simp [Reader.take]

theorem skip (bytes : List UInt8) : Reads (skip bytes.length) bytes () := (take bytes).map _

/-- The values written one after the other. -/
theorem times {encode : β → List UInt8} {value : β → α} {bs : List β}
    (h : ∀ b ∈ bs, Reads r (encode b) (value b)) :
    Reads (times bs.length r) (bs.flatMap encode) (bs.map value) := by
  induction bs with
  | nil => exact pure []
  | cons b bs ih =>
    have hb := h b List.mem_cons_self
    exact hb.bind ((ih fun b' hb' => h b' (List.mem_cons_of_mem _ hb')).map _)

/-- The values of a table. -/
theorem counted {encode : β → List UInt8} {value : β → α} {bs : List β}
    (hn : bs.length < 0x10000) (h : ∀ b ∈ bs, Reads r (encode b) (value b)) :
    Reads (counted r) (Encoding.table encode bs) (bs.map value) := by
  refine (u2 (.ofNat bs.length)).bind ?_
  rw [UInt16.toNat_ofNat_of_lt' hn]
  exact times h

/-- An empty table. -/
theorem counted_zero (r : Reader α) : Reads (Reader.counted r) (Encoding.u2 0) [] :=
  fun rest => run_bind (u2 0 rest)

/-- An empty table of rows. -/
theorem skipRows (width : Nat) : Reads (skipRows width) (Encoding.u2 0) () := by
  have hskip : Reads (Reader.skip ((0 : UInt16).toNat * width)) [] () := by
    rw [show (0 : UInt16).toNat * width = ([] : List UInt8).length from Nat.zero_mul width]
    exact skip []
  exact (u2 0).bind hskip

/-- Bytes that are still there to be read. -/
theorem atLeast {bytes : List UInt8} {n : Nat} (hn : n ≤ bytes.length) (hr : Reads r bytes a) :
    Reads (do Reader.atLeast n; r) bytes a := by
  intro rest
  have hlength : ((bytes ++ rest).take n).length = n := by
    rw [List.length_take, List.length_append]
    omega
  have hrun : (Reader.atLeast n).run (bytes ++ rest) = some ((), bytes ++ rest) := if_pos hlength
  rw [run_bind hrun]
  exact hr rest

end Reads

end Reader

end CallGraph
