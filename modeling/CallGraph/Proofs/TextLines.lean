import CallGraph.Text.Affix
import CallGraph.Text.Numeral
import Mathlib.Data.List.SplitBy
import Mathlib.Data.List.TakeDrop

/-!
# Texts put together and taken apart

Parts that are joined by a character which occurs in none of them can be told apart again, digits
write the number that they were made of, and lines without line breaks are the lines of a text.

* `number?_toDigits` — a number is read back from its digits
* `splitAt_of_toList`, `cut?_of_toList` — a separator is found where it was put
* `lines`, `readLines?` — the lines of a text, and a text that is read line by line
* `lines_join`, `readLines?_join` — a text that was written line by line
-/

namespace CallGraph.Text

/-! ## Numbers -/

theorem digitValue?_digitChar : ∀ d < 16, digitValue? (Nat.digitChar d) = some d := by decide

theorem number?_concat {base n d : Nat} {digits : List Char} (hn : number? base digits = some n)
    (hd : d < base) (hb : base ≤ 16) :
    number? base (digits ++ [Nat.digitChar d]) = some (n * base + d) := by
  unfold number? at hn ⊢
  rw [List.foldlM_append, hn]
  simp [digitValue?_digitChar d (by omega), hd]

/-- **Digits write the number that they were made of.** -/
theorem number?_toDigits {base : Nat} (h : 1 < base) (hb : base ≤ 16) (n : Nat) :
    number? base (Nat.toDigits base n) = some n := by
  have hnone : number? base [] = some 0 := rfl
  induction n using Nat.strongRecOn with
  | ind n ih =>
    by_cases hn : n < base
    · rw [Nat.toDigits_of_lt_base hn]
      simpa using number?_concat hnone hn hb
    · have hless : n / base < n := Nat.div_lt_self (by omega) h
      rw [Nat.toDigits_of_base_le h (by omega),
        number?_concat (ih _ hless) (Nat.mod_lt n (by omega)) hb, Nat.div_add_mod']

theorem number?_decimal (n : Nat) : number? 10 (Nat.toDigits 10 n) = some n :=
  number?_toDigits (by decide) (by decide) n

theorem isDigit_of_mem_decimal {n : Nat} {c : Char} (h : c ∈ Nat.toDigits 10 n) :
    c.isDigit = true :=
  Nat.isDigit_of_mem_toDigits (by decide) (by decide) h

theorem not_mem_decimal {c : Char} (h : c.isDigit = false) (n : Nat) : c ∉ Nat.toDigits 10 n := by
  intro hc
  rw [isDigit_of_mem_decimal hc] at h
  simp at h

/-! ## Separators -/

variable {sep : Char}

theorem splitAt_go_append (part : List Char) {cs : List Char} (h : sep ∉ cs) (rest : List Char) :
    splitAt.go sep part (cs ++ rest) = splitAt.go sep (cs.reverse ++ part) rest := by
  induction cs generalizing part with
  | nil => rfl
  | cons c cs ih =>
    have hc : c ≠ sep := fun hc => h (hc ▸ List.mem_cons_self)
    rw [List.cons_append, splitAt.go, if_neg hc, ih _ fun hm => h (List.mem_cons_of_mem c hm)]
    simp

theorem splitAt_of_not_mem {s : String} (h : sep ∉ s.toList) : splitAt sep s = [s] := by
  have hgo := splitAt_go_append [] h []
  rw [List.append_nil] at hgo
  unfold splitAt
  rw [hgo]
  simp [splitAt.go]

/-- The first part ends where the separator stands. -/
theorem splitAt_of_toList {s a b : String} (h : sep ∉ a.toList)
    (hs : s.toList = a.toList ++ sep :: b.toList) : splitAt sep s = a :: splitAt sep b := by
  unfold splitAt
  rw [hs, splitAt_go_append [] h, splitAt.go, if_pos rfl]
  simp

theorem splitAt_intercalate {parts : List String} (hne : parts ≠ [])
    (h : ∀ part ∈ parts, sep ∉ part.toList) :
    splitAt sep (String.intercalate (String.singleton sep) parts) = parts := by
  induction parts with
  | nil => exact absurd rfl hne
  | cons part parts ih =>
    have hpart := h part List.mem_cons_self
    cases parts with
    | nil => simpa using splitAt_of_not_mem hpart
    | cons next parts =>
      have hrest := ih (by simp) fun p hp => h p (List.mem_cons_of_mem _ hp)
      rw [String.intercalate_cons_cons]
      generalize String.intercalate (String.singleton sep) (next :: parts) = rest at hrest ⊢
      rw [splitAt_of_toList (b := rest) hpart (by simp), hrest]

theorem not_mem_intercalate {c : Char} {separator : String} {parts : List String}
    (hs : c ∉ separator.toList) (h : ∀ part ∈ parts, c ∉ part.toList) :
    c ∉ (String.intercalate separator parts).toList := by
  rw [String.toList_intercalate]
  induction parts with
  | nil => simp
  | cons part parts ih =>
    have hpart := h part List.mem_cons_self
    have hrest := ih fun p hp => h p (List.mem_cons_of_mem _ hp)
    cases parts with
    | nil => simpa using hpart
    | cons next parts => simp_all

theorem cut?_of_toList {s a b : String} (h : sep ∉ a.toList)
    (hs : s.toList = a.toList ++ sep :: b.toList) : cut? sep s = some (a, b) := by
  have hall : ∀ c ∈ a.toList, decide (c ≠ sep) = true := by
    intro c hc
    refine decide_eq_true ?_
    rintro rfl
    exact h hc
  unfold cut?
  rw [hs, List.span_eq_takeWhile_dropWhile, List.takeWhile_append_of_pos hall,
    List.dropWhile_append_of_pos hall]
  simp

/-! ## The two ends -/

theorem after?_append (p s : String) : after? p (p ++ s) = some s := by
  have h : p.toList.isPrefixOf? (p ++ s).toList = some s.toList := by
    rw [List.isPrefixOf?_eq_some_iff_append_eq, String.toList_append]
  rw [after?, h, Option.map_some, String.ofList_toList]

theorem before?_append (s p : String) : before? p (s ++ p) = some s := by
  have h : p.toList.isSuffixOf? (s ++ p).toList = some s.toList := by
    rw [List.isSuffixOf?_eq_some_iff_append_eq, String.toList_append]
  rw [before?, h, Option.map_some, String.ofList_toList]

/-! ## Lines -/

/-- The pieces of a text that is cut after every line break. -/
def lines (s : String) : List String :=
  (s.toList.splitBy fun c _ => c != '\n').map String.ofList

/-- Reads a text line by line; every line ends in a line break. -/
def readLines? {α : Type} (read? : String → Option α) (s : String) : Option (List α) :=
  (lines s).mapM fun line => (before? "\n" line).bind read?

theorem lines_append {line : String} (h : '\n' ∉ line.toList) (s : String) :
    lines (line ++ "\n" ++ s) = (line ++ "\n") :: lines s := by
  have hbreak : "\n".toList = ['\n'] := rfl
  -- A character is followed by another one of its line unless it is a line break.
  have hchain : (line.toList ++ ['\n']).IsChain fun c _ => (c != '\n') = true := by
    refine List.Pairwise.isChain (List.pairwise_append.mpr ⟨?_, List.pairwise_singleton _ _, ?_⟩)
    · refine List.pairwise_of_forall_mem_list fun c hc _ _ => ?_
      simpa using ne_of_mem_of_not_mem hc h
    · intro c hc _ _
      simpa using ne_of_mem_of_not_mem hc h
  unfold lines
  rw [String.toList_append, String.toList_append, hbreak, List.splitBy_append (by simp),
    List.splitBy_of_isChain (by simp) hchain]
  simp [String.ofList_append]

section
variable {α β : Type} {line : α → String} {xs : List α}

/-- **Lines without line breaks are the lines of the text that they make up.** -/
theorem lines_join (h : ∀ x ∈ xs, '\n' ∉ (line x).toList) :
    lines (String.join (xs.map (line · ++ "\n"))) = xs.map (line · ++ "\n") := by
  induction xs with
  | nil => rfl
  | cons x xs ih =>
    rw [List.map_cons, String.join_cons, lines_append (h x List.mem_cons_self),
      ih fun y hy => h y (List.mem_cons_of_mem _ hy)]

/-- **A text that was written line by line is read line by line.** -/
theorem readLines?_join {read? : String → Option β} {view : α → β}
    (h : ∀ x ∈ xs, '\n' ∉ (line x).toList) (hr : ∀ x ∈ xs, read? (line x) = some (view x)) :
    readLines? read? (String.join (xs.map (line · ++ "\n"))) = some (xs.map view) := by
  unfold readLines?
  rw [lines_join h]
  clear h
  induction xs with
  | nil => rfl
  | cons x xs ih =>
    rw [List.map_cons, List.mapM_cons, before?_append, Option.bind_some, hr x List.mem_cons_self,
      ih fun y hy => hr y (List.mem_cons_of_mem _ hy)]
    rfl

end

end CallGraph.Text
