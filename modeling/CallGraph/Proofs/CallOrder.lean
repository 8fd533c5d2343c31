import CallGraph.Proofs.ExecutionLinks
import Mathlib.Data.List.Perm.Basic

/-!
# Calls in any order

What calls leave behind and what they draw does not depend on their order, with one exception: the
link to what runs elsewhere is drawn once, and the call that comes first decides where it starts.

* `recordAll_perm` — the usage after calls
* `filter_isLink_draw_perm` — the links of a class
* `draw_perm` — all other edges
-/

namespace CallGraph

open Std (ExtTreeMap ExtTreeSet)

namespace Usage

theorem record_comm (usage : Usage) (owner signature owner' signature' : String) :
    (usage.record owner signature).record owner' signature' =
      (usage.record owner' signature').record owner signature := by
  unfold record
  refine congrArg Usage.mk (ExtTreeMap.ext_getElem? fun name => ?_)
  simp only [ExtTreeMap.getElem?_alter, Std.LawfulEqCmp.compare_eq_iff_eq]
  by_cases h : owner = name
  · subst h
    by_cases h' : owner' = owner
    · subst h'
      simp only [if_true, Option.getD_some, Option.some.injEq]
      refine ExtTreeSet.ext_mem fun s => ?_
      simp only [ExtTreeSet.mem_insert]
      exact or_left_comm
    · simp [h']
  · by_cases h' : owner' = name
    · subst h'
      simp [h]
    · simp [h, h']

/-- **Usage does not tell in which order the calls were made.** -/
theorem recordAll_perm (usage : Usage) {os os' : List Occurrence} (h : os.Perm os') :
    usage.recordAll os = usage.recordAll os' :=
  h.foldl_eq' (fun _ _ _ _ usage => record_comm usage _ _ _ _) usage

end Usage

/-! ## Links -/

namespace Launch

/-- The name of the methods that set off an object. -/
def starter (launch : Launch) : String :=
  if launch.isConstruction then Marks.constructorName else Marks.startName

/-- The link of a class that starts at the method with these arguments. -/
def linkFrom (launch : Launch) (name : String) (arguments : List String) : Edge :=
  .inferred (.of name launch.starter arguments) launch.kind ⟨name, launch.executed⟩

/-- Links of a class differ in the arguments of a constructor at most. -/
theorem link_eq_linkFrom {launch : Launch} {name : String} {o : Occurrence}
    (h : launch.triggers name o = true) :
    launch.link o = launch.linkFrom name o.call.arguments ∧
      (launch.isConstruction = false → o.call.arguments = []) := by
  unfold triggers at h
  obtain ⟨hn, hs⟩ := Bool.and_eq_true_iff.mp h
  obtain rfl := of_decide_eq_true hn
  unfold link linkFrom starter Call.callee
  cases hl : launch.isConstruction with
  | true =>
    rw [hl] at hs
    rw [of_decide_eq_true hs]
    exact ⟨rfl, by simp⟩
  | false =>
    rw [hl] at hs
    obtain ⟨hs, ha⟩ := of_decide_eq_true hs
    rw [hs]
    exact ⟨rfl, fun _ => ha⟩

end Launch

/-- The edge leads from a constructor to what runs in the end. -/
def Edge.isConstructionLink (e : Edge) : Bool :=
  Launch.runnable.isLink e.callee.owner e || Launch.callable.isLink e.callee.owner e

/-- Lists of edges agree on the edges of a sort if each of these is of some sort on which they
agree. -/
theorem perm_filter_of_sorts {edges edges' : List Edge} {q : Edge → Bool}
    (h : ∀ e, q e = true → ∃ p : Edge → Bool, p e = true ∧
      (edges.filter p).Perm (edges'.filter p)) :
    (edges.filter q).Perm (edges'.filter q) := by
  rw [List.perm_iff_count]
  intro e
  cases hq : q e with
  | false =>
    have hnot : ∀ l : List Edge, (l.filter q).count e = 0 := by
      intro l
      rw [List.count_eq_zero, List.mem_filter, hq]
      simp
    rw [hnot, hnot]
  | true =>
    obtain ⟨p, hp, hperm⟩ := h e hq
    rw [List.count_filter hq, List.count_filter hq, ← List.count_filter hp, hperm.count_eq,
      List.count_filter hp]

namespace Marks

variable {os os' : List Occurrence}

/-- **The links of a class under calls in any order:** there is none, or there is one, and for a
constructor it depends on the order from which one it starts. -/
theorem filter_isLink_draw_perm (marks : Marks) (h : os.Perm os')
    (ho : ∀ o ∈ os, o.call.kind.isRaw = true) (launch : Launch) (name : String) :
    ((marks.draw os).filter (launch.isLink name) = [] ∧
        (marks.draw os').filter (launch.isLink name) = []) ∨
      ∃ arguments arguments',
        (marks.draw os).filter (launch.isLink name) = [launch.linkFrom name arguments] ∧
        (marks.draw os').filter (launch.isLink name) = [launch.linkFrom name arguments'] ∧
        (launch.isConstruction = false → arguments = arguments') := by
  have ho' : ∀ o ∈ os', o.call.kind.isRaw = true := fun o hm => ho o (h.mem_iff.mpr hm)
  rw [filter_isLink_draw marks ho, filter_isLink_draw marks ho']
  cases (launch.marksIn marks).isPending name with
  | false => exact Or.inl ⟨rfl, rfl⟩
  | true =>
    cases hf : os.find? (launch.triggers name) with
    | none =>
      have hf' : os'.find? (launch.triggers name) = none :=
        List.find?_eq_none.mpr fun o hm => List.find?_eq_none.mp hf o (h.mem_iff.mpr hm)
      rw [hf']
      exact Or.inl ⟨rfl, rfl⟩
    | some o =>
      have hsome : (os'.find? (launch.triggers name)).isSome = true :=
        List.find?_isSome.mpr
          ⟨o, h.mem_iff.mp (List.mem_of_find?_eq_some hf), List.find?_some hf⟩
      obtain ⟨o', hf'⟩ := Option.isSome_iff_exists.mp hsome
      obtain ⟨hl, ha⟩ := Launch.link_eq_linkFrom (List.find?_some hf)
      obtain ⟨hl', ha'⟩ := Launch.link_eq_linkFrom (List.find?_some hf')
      refine Or.inr ⟨o.call.arguments, o'.call.arguments, ?_, ?_, fun hc => ?_⟩
      · rw [← hl]
        rfl
      · rw [hf', ← hl']
        rfl
      · rw [ha hc, ha' hc]

/-! ## All other edges -/

/-- No edge is drawn of a kind that is neither that of a call nor that of a launch. -/
theorem filter_kind_draw_eq_nil (marks : Marks) (ho : ∀ o ∈ os, o.call.kind.isRaw = true)
    {kind : EdgeKind} (hraw : kind.isRaw = false) (hl : ∀ launch : Launch, kind ≠ launch.kind) :
    (marks.draw os).filter (·.kind = kind) = [] := by
  rw [List.filter_eq_nil_iff]
  intro e he hk
  obtain rfl := of_decide_eq_true hk
  rcases mem_draw_cases he with ⟨o, hm, rfl⟩ | hk | hk | hk
  · have : o.call.kind.isRaw = false := hraw
    rw [ho o hm] at this
    simp at this
  · exact hl .runnable hk
  · exact hl .callable hk
  · exact hl .thread hk

/-- **The other edges that calls draw do not depend on their order.** -/
theorem draw_perm (marks : Marks) (h : os.Perm os') (ho : ∀ o ∈ os, o.call.kind.isRaw = true) :
    ((marks.draw os).filter (!·.isConstructionLink)).Perm
      ((marks.draw os').filter (!·.isConstructionLink)) := by
  have ho' : ∀ o ∈ os', o.call.kind.isRaw = true := fun o hm => ho o (h.mem_iff.mpr hm)
  refine perm_filter_of_sorts fun e he => ?_
  by_cases hraw : e.kind.isRaw = true
  · refine ⟨isRawOn e.callee.owner, by simp [isRawOn, hraw], ?_⟩
    rw [filter_isRawOn_draw marks ho, filter_isRawOn_draw marks ho']
    exact (h.filter _).map _
  by_cases hl : ∃ launch : Launch, e.kind = launch.kind
  · obtain ⟨launch, hk⟩ := hl
    by_cases hs : e.callee.signature = launch.executed
    · have hlink : launch.isLink e.callee.owner e = true := by
        unfold Launch.isLink
        simp [hk, ← hs]
      refine ⟨launch.isLink e.callee.owner, hlink, ?_⟩
      -- Only a thread is left, and all links of a thread start at the same method.
      have hthread : launch.isConstruction = false := by
        cases launch with
        | thread => rfl
        | _ => simp [Edge.isConstructionLink, hlink] at he
      rcases filter_isLink_draw_perm marks h ho launch e.callee.owner with
        ⟨hnil, hnil'⟩ | ⟨arguments, arguments', hone, hone', hsame⟩
      · rw [hnil, hnil']
      · rw [hone, hone', hsame hthread]
    · refine ⟨launch.isSetOff e.callee.owner, by simp [Launch.isSetOff, hk, hs], ?_⟩
      rw [filter_isSetOff_draw marks ho, filter_isSetOff_draw marks ho']
      exact (h.filter _).map _
  · have hnot : e.kind.isRaw = false := by simpa using hraw
    have hother : ∀ launch : Launch, e.kind ≠ launch.kind := fun launch hk => hl ⟨launch, hk⟩
    refine ⟨fun e' => e'.kind = e.kind, by simp, ?_⟩
    rw [filter_kind_draw_eq_nil marks ho hnot hother, filter_kind_draw_eq_nil marks ho' hnot hother]

end Marks

end CallGraph
