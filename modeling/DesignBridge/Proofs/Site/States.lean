import DesignBridge.Site.States
import Mathlib.Algebra.Order.Group.Defs
import Mathlib.Algebra.Order.Group.Unbundled.Basic
import Mathlib.Algebra.Order.Group.Int
import Mathlib.Data.List.Induction

/-! # A state is good once and for a while

What a store of states answers follows from its history alone. A state is good from its issue on,
up to its first good use and to the end of its lifetime; that the store drops states only when it is
called makes no difference, and neither does what happens to other states. Times are counted
exactly, and the lifetime may be any length, also none or a negative one.
-/

namespace DesignBridge

/-- A call of a store of states. -/
inductive AuthCall where
  | issue (state : String)
  | consume (state : Option String)
  deriving DecidableEq

namespace AuthCall

/-- The state that a call issues. -/
def issued? : AuthCall → Option String
  | issue state => some state
  | consume _ => none

/-- Whether a call is about a state. -/
def concerns (name : String) : AuthCall → Bool
  | issue state => state == name
  | consume state => state == some name

end AuthCall

/-- A call and the time at which it is made. -/
structure AuthEvent (Clock : Type) where
  time : Clock
  call : AuthCall
  deriving DecidableEq

namespace AuthStates

section

variable {Clock : Type} {history : List (AuthEvent Clock)} {event : AuthEvent Clock}

/-- The states that a history issues. -/
def issuedIn (history : List (AuthEvent Clock)) : List String :=
  history.filterMap (·.call.issued?)

variable [LE Clock]

/-- The clock does not go back, and no state is issued twice. -/
structure Regular (history : List (AuthEvent Clock)) : Prop where
  sorted : history.Pairwise (·.time ≤ ·.time)
  distinct : (issuedIn history).Nodup

theorem Regular.sublist {part : List (AuthEvent Clock)} (h : Regular history)
    (hpart : part.Sublist history) : Regular part :=
  ⟨h.sorted.sublist hpart, (hpart.filterMap _).nodup h.distinct⟩

/-- An event of a regular history is not before those that come first, and issues what they do
not. -/
theorem Regular.cut {rest : List (AuthEvent Clock)} (h : Regular (history ++ event :: rest)) :
    Regular history ∧ (∀ earlier ∈ history, earlier.time ≤ event.time) ∧
      ∀ name ∈ event.call.issued?, name ∉ issuedIn history := by
  have hdistinct := h.distinct
  rw [issuedIn, List.filterMap_append, List.nodup_append] at hdistinct
  refine ⟨h.sublist (List.sublist_append_left history _), fun earlier hmem =>
    (List.pairwise_append.mp h.sorted).2.2 earlier hmem event List.mem_cons_self,
    fun name hname hmem => hdistinct.2.2 name hmem name ?_ rfl⟩
  exact List.mem_filterMap.mpr ⟨event, List.mem_cons_self, hname⟩

end

section

variable {Clock : Type} [Sub Clock] [LT Clock] [DecidableLT Clock]

/-- The states after one more call. -/
def handle (states : AuthStates Clock) (event : AuthEvent Clock) : AuthStates Clock :=
  match event.call with
  | .issue state => states.issue event.time state
  | .consume state => (states.consume event.time state).1

/-- The states after a history. -/
def after (lifetime : Clock) (history : List (AuthEvent Clock)) : AuthStates Clock :=
  history.foldl handle (fresh lifetime)

/-- Whether a use is good at a time after a history. -/
def isGood (lifetime : Clock) (history : List (AuthEvent Clock)) (now : Clock)
    (state : Option String) : Bool :=
  ((after lifetime history).consume now state).2

/-- A state was issued at a time, and no use of it since then was good. -/
def Outstanding (lifetime : Clock) (history : List (AuthEvent Clock)) (name : String)
    (issued : Clock) : Prop :=
  ∃ before since, history = before ++ ⟨issued, .issue name⟩ :: since ∧
    ∀ first now rest, since = first ++ ⟨now, .consume (some name)⟩ :: rest →
      isGood lifetime (before ++ ⟨issued, .issue name⟩ :: first) now (some name) = false

theorem after_snoc (lifetime : Clock) (history : List (AuthEvent Clock)) (event : AuthEvent Clock) :
    after lifetime (history ++ [event]) = (after lifetime history).handle event := by
  rw [after, List.foldl_append]
  rfl

theorem lifetime_handle (states : AuthStates Clock) (event : AuthEvent Clock) :
    (states.handle event).lifetime = states.lifetime := by
  unfold handle consume
  cases event.call with
  | issue name => rfl
  | consume state =>
      cases state with
      | none => rfl
      | some name =>
          dsimp only
          split <;> rfl

theorem lifetime_after (lifetime : Clock) (history : List (AuthEvent Clock)) :
    (after lifetime history).lifetime = lifetime := by
  induction history using List.reverseRec with
  | nil => rfl
  | append_singleton history event ih => rw [after_snoc, lifetime_handle, ih]

variable {states : AuthStates Clock}

theorem nodup_purge (h : states.names.Nodup) (now : Clock) : (states.purge now).names.Nodup :=
  (List.filter_sublist.map Prod.fst).nodup h

theorem nodup_handle (h : states.names.Nodup) (event : AuthEvent Clock) :
    (states.handle event).names.Nodup := by
  unfold handle
  cases event.call with
  | issue name => exact Entries.nodup_keys_put (nodup_purge h event.time) name event.time
  | consume state =>
      unfold consume
      cases state with
      | none => exact nodup_purge h event.time
      | some used =>
          dsimp only
          split
          next => exact nodup_purge h event.time
          next => exact Entries.nodup_keys_erase (nodup_purge h event.time) used

theorem nodup_after (lifetime : Clock) (history : List (AuthEvent Clock)) :
    (after lifetime history).names.Nodup := by
  induction history using List.reverseRec with
  | nil => exact List.nodup_nil
  | append_singleton history event ih =>
      exact after_snoc lifetime history event ▸ nodup_handle ih event

/-! ## Issued and not used -/

variable {lifetime now issued : Clock} {history : List (AuthEvent Clock)} {name : String}

theorem Outstanding.mem (h : Outstanding lifetime history name issued) :
    (⟨issued, .issue name⟩ : AuthEvent Clock) ∈ history := by
  obtain ⟨before, since, rfl, _⟩ := h
  simp

theorem Outstanding.mem_issuedIn (h : Outstanding lifetime history name issued) :
    name ∈ issuedIn history :=
  List.mem_filterMap.mpr ⟨_, h.mem, rfl⟩

/-- A call leaves what is outstanding so, unless it is a good use of it. -/
theorem outstanding_snoc {event : AuthEvent Clock} :
    Outstanding lifetime (history ++ [event]) name issued ↔
      event = ⟨issued, .issue name⟩ ∨ Outstanding lifetime history name issued ∧
        (event.call = .consume (some name) →
          isGood lifetime history event.time (some name) = false) := by
  constructor
  · rintro ⟨before, since, hhistory, hunused⟩
    rcases List.eq_nil_or_concat since with rfl | ⟨since, last, rfl⟩
    · obtain ⟨_, hevent⟩ := List.append_inj' hhistory rfl
      exact .inl (List.singleton_inj.mp hevent)
    · rw [List.concat_eq_append, ← List.cons_append, ← List.append_assoc] at hhistory
      obtain ⟨rfl, hevent⟩ := List.append_inj' hhistory rfl
      obtain rfl := List.singleton_inj.mp hevent
      refine .inr ⟨⟨before, since, rfl, fun first now rest hsince =>
        hunused first now (rest ++ [event]) (by simp [hsince])⟩, fun hcall => ?_⟩
      exact hunused since event.time [] (by simp [← hcall])
  · rintro (rfl | ⟨⟨before, since, rfl, hunused⟩, hgood⟩)
    · exact ⟨history, [], rfl, fun first now rest hsince => by simp at hsince⟩
    · refine ⟨before, since ++ [event], by simp, fun first now rest hsince => ?_⟩
      rcases List.eq_nil_or_concat rest with rfl | ⟨rest, last, rfl⟩
      · obtain ⟨rfl, hevent⟩ := List.append_inj' hsince rfl
        obtain rfl := List.singleton_inj.mp hevent
        exact hgood rfl
      · rw [List.concat_eq_append, ← List.cons_append, ← List.append_assoc] at hsince
        exact hunused first now rest (List.append_inj' hsince rfl).1

end

/-! ## One call -/

section

variable {Clock : Type} [AddCommGroup Clock] [LinearOrder Clock] [IsOrderedAddMonoid Clock]
  {states : AuthStates Clock} {now issued : Clock} {name other : String} {state : Option String}

theorem mem_purge : (name, issued) ∈ (states.purge now).held ↔
    (name, issued) ∈ states.held ∧ now - issued ≤ states.lifetime := by
  rw [purge, List.mem_filter, decide_eq_true_eq, not_lt, sub_le_comm]

/-- A state that is issued is held from that moment, whatever was held under its name. -/
theorem mem_issue (h : states.names.Nodup) :
    (name, issued) ∈ (states.issue now other).held ↔
      name = other ∧ issued = now ∨
        name ≠ other ∧ (name, issued) ∈ states.held ∧ now - issued ≤ states.lifetime := by
  rw [issue, Entries.mem_put_iff (nodup_purge h now), mem_purge]

/-- A use takes up every state of its name and no other. -/
theorem mem_consume : (name, issued) ∈ (states.consume now state).1.held ↔
    ((name, issued) ∈ states.held ∧ now - issued ≤ states.lifetime) ∧
      (state = some name → name = "") := by
  rw [← mem_purge]
  unfold consume
  cases state with
  | none => simp
  | some used =>
      dsimp only
      split
      next hempty => simp [hempty, eq_comm]
      next hused =>
        rw [Entries.erase, List.mem_filter, bne_iff_ne]
        refine and_congr_right fun _ => ⟨fun hne heq => (hne (Option.some.inj heq).symm).elim, ?_⟩
        rintro hempty rfl
        exact hused (hempty rfl)

/-- A use is good just if its state is held and has not outlived its lifetime. -/
theorem consume_good_iff : (states.consume now state).2 = true ↔
    ∃ name issued, state = some name ∧ name ≠ "" ∧
      (name, issued) ∈ states.held ∧ now - issued ≤ states.lifetime := by
  simp only [← mem_purge]
  unfold consume
  cases state with
  | none => simp
  | some used =>
      dsimp only
      split
      next hempty => simp [hempty]
      next hused =>
        rw [List.lookup_isSome_iff]
        constructor
        · rintro ⟨⟨name, issued⟩, hmem, heq⟩
          obtain rfl := eq_of_beq heq
          exact ⟨used, issued, rfl, hused, hmem⟩
        · rintro ⟨name, issued, heq, _, hmem⟩
          obtain rfl := Option.some.inj heq
          exact ⟨(used, issued), hmem, beq_self_eq_true used⟩

/-! ## A whole history -/

variable {lifetime : Clock} {history : List (AuthEvent Clock)} {event : AuthEvent Clock}

/-- What is known of the states that have not outlived their lifetime: they are held just if they
are outstanding. -/
def Tracked (lifetime : Clock) (history : List (AuthEvent Clock)) (now : Clock) : Prop :=
  ∀ name issued, now - issued ≤ lifetime →
    ((name, issued) ∈ (after lifetime history).held ↔ Outstanding lifetime history name issued)

/-- So a use is good just if its state is outstanding and has not outlived its lifetime. -/
theorem Tracked.isGood_iff (h : Tracked lifetime history now) :
    isGood lifetime history now state = true ↔ ∃ name issued, state = some name ∧ name ≠ "" ∧
      Outstanding lifetime history name issued ∧ now - issued ≤ lifetime := by
  unfold isGood
  rw [consume_good_iff, lifetime_after]
  refine exists_congr fun name => exists_congr fun issued =>
    and_congr_right fun _ => and_congr_right fun _ => and_congr_left fun hage => h name issued hage

theorem Tracked.isGood_eq_false_iff (h : Tracked lifetime history now)
    (hout : Outstanding lifetime history name issued) (hage : now - issued ≤ lifetime) :
    isGood lifetime history now (some name) = false ↔ name = "" := by
  rw [← Bool.not_eq_true, h.isGood_iff, not_iff_comm]
  constructor
  · exact fun hname => ⟨name, issued, rfl, hname, hout, hage⟩
  · rintro ⟨_, _, heq, hname, _, _⟩
    exact Option.some.inj heq ▸ hname

/-- A call holds what is outstanding after it and has not outlived its lifetime, and the state that
it issues itself. -/
theorem Tracked.mem_held_snoc (h : Tracked lifetime history event.time)
    (hnew : ∀ name ∈ event.call.issued?, name ∉ issuedIn history) :
    (name, issued) ∈ (after lifetime (history ++ [event])).held ↔
      Outstanding lifetime (history ++ [event]) name issued ∧
        (event.time - issued ≤ lifetime ∨ event = ⟨issued, .issue name⟩) := by
  rw [after_snoc, outstanding_snoc]
  obtain ⟨now, call⟩ := event
  cases call with
  | issue other =>
      have hfresh : Outstanding lifetime history name issued → name ≠ other :=
        fun hout heq => hnew other rfl (heq ▸ hout.mem_issuedIn)
      have hheld := h name issued
      rw [handle, mem_issue (nodup_after lifetime history), lifetime_after]
      simp only [AuthEvent.mk.injEq, AuthCall.issue.injEq, reduceCtorEq, false_imp_iff, and_true]
      constructor
      · rintro (⟨rfl, rfl⟩ | ⟨_, hmem, hage⟩)
        · exact ⟨.inl ⟨rfl, rfl⟩, .inr ⟨rfl, rfl⟩⟩
        · exact ⟨.inr ((hheld hage).mp hmem), .inl hage⟩
      · rintro ⟨⟨rfl, rfl⟩ | hout, hage⟩
        · exact .inl ⟨rfl, rfl⟩
        · rcases hage with hage | ⟨_, rfl⟩
          · exact .inr ⟨hfresh hout, (hheld hage).mpr hout, hage⟩
          · exact (hfresh hout rfl).elim
  | consume state =>
      have hheld := h name issued
      rw [handle, mem_consume, lifetime_after]
      simp only [AuthEvent.mk.injEq, AuthCall.consume.injEq, reduceCtorEq, and_false, false_or,
        or_false]
      constructor
      · rintro ⟨⟨hmem, hage⟩, hempty⟩
        have hout := (hheld hage).mp hmem
        exact ⟨⟨hout, fun hstate => (h.isGood_eq_false_iff hout hage).mpr (hempty hstate)⟩, hage⟩
      · rintro ⟨⟨hout, hgood⟩, hage⟩
        exact ⟨⟨(hheld hage).mpr hout, hage⟩,
          fun hstate => (h.isGood_eq_false_iff hout hage).mp (hgood hstate)⟩

/-- Along a regular history, every state that has not outlived its lifetime is held just if it is
outstanding. -/
theorem Regular.tracked (h : Regular history) (hnow : ∀ event ∈ history, event.time ≤ now) :
    Tracked lifetime history now := by
  induction history using List.reverseRec generalizing now with
  | nil =>
      intro name issued _
      exact ⟨(nomatch ·), fun hout => nomatch hout.mem⟩
  | append_singleton history event ih =>
      obtain ⟨hregular, htime, hnew⟩ := h.cut
      intro name issued hage
      have hevent : event.time - issued ≤ lifetime :=
        (sub_le_sub_right (hnow event (by simp)) issued).trans hage
      rw [(ih hregular htime).mem_held_snoc hnew]
      exact and_iff_left (.inl hevent)

/-- Only the calls about a state decide whether a use of it is good, if they decide whether it is
outstanding. -/
theorem Regular.isGood_filter (h : Regular history) (hnow : ∀ event ∈ history, event.time ≤ now)
    (hout : ∀ issued, Outstanding lifetime (history.filter (·.call.concerns name)) name issued ↔
      Outstanding lifetime history name issued) :
    isGood lifetime (history.filter (·.call.concerns name)) now (some name) =
      isGood lifetime history now (some name) := by
  have hpart : Tracked lifetime (history.filter (·.call.concerns name)) now :=
    (h.sublist List.filter_sublist).tracked fun event hmem => hnow event (List.mem_filter.mp hmem).1
  rw [Bool.eq_iff_iff, hpart.isGood_iff, (h.tracked hnow).isGood_iff]
  refine exists_congr fun used => exists_congr fun issued => and_congr_right fun heq => ?_
  obtain rfl := Option.some.inj heq
  rw [hout]

/-- And they decide it. -/
theorem Regular.outstanding_filter (h : Regular history) :
    Outstanding lifetime (history.filter (·.call.concerns name)) name issued ↔
      Outstanding lifetime history name issued := by
  induction history using List.reverseRec generalizing issued with
  | nil => rfl
  | append_singleton history event ih =>
      obtain ⟨hregular, htime, _⟩ := h.cut
      rw [List.filter_append, outstanding_snoc]
      cases hconcerns : event.call.concerns name with
      | true =>
          have hlast : [event].filter (·.call.concerns name) = [event] := by simp [hconcerns]
          rw [hlast, outstanding_snoc, ih hregular,
            hregular.isGood_filter htime fun _ => ih hregular]
      | false =>
          have hlast : [event].filter (·.call.concerns name) = [] := by simp [hconcerns]
          rw [hlast, List.append_nil, ih hregular]
          have hissue : event ≠ ⟨issued, .issue name⟩ := by
            rintro rfl
            simp [AuthCall.concerns] at hconcerns
          have huse : event.call ≠ .consume (some name) := by
            intro heq
            simp [heq, AuthCall.concerns] at hconcerns
          simp [hissue, huse]

/-- What a store answers and holds along a history: a use is good just if its state is outstanding
and has not outlived its lifetime, no use of it is good after that, other states have no part in it,
and after every call just the outstanding states within their lifetime are held, and the one that
was issued right then. -/
structure SingleUse (lifetime : Clock) (history : List (AuthEvent Clock)) : Prop where
  good_iff : ∀ before now state rest, history = before ++ ⟨now, .consume state⟩ :: rest →
    (isGood lifetime before now state = true ↔ ∃ name issued, state = some name ∧ name ≠ "" ∧
      Outstanding lifetime before name issued ∧ now - issued ≤ lifetime)
  once : ∀ before now name between later rest,
    history = before ++ ⟨now, .consume (some name)⟩ :: between ++
      ⟨later, .consume (some name)⟩ :: rest →
    isGood lifetime before now (some name) = true →
      isGood lifetime (before ++ ⟨now, .consume (some name)⟩ :: between) later (some name) = false
  alone : ∀ before now name rest, history = before ++ ⟨now, .consume (some name)⟩ :: rest →
    isGood lifetime (before.filter (·.call.concerns name)) now (some name) =
      isGood lifetime before now (some name)
  held_iff : ∀ before event rest, history = before ++ event :: rest → ∀ name issued,
    ((name, issued) ∈ (after lifetime (before ++ [event])).held ↔
      Outstanding lifetime (before ++ [event]) name issued ∧
        (event.time - issued ≤ lifetime ∨ event = ⟨issued, .issue name⟩))

/-- Where a use of a state was good, the state is not outstanding any more. -/
theorem Regular.not_outstanding_of_isGood {between : List (AuthEvent Clock)}
    (h : Regular (history ++ ⟨now, .consume (some name)⟩ :: between))
    (hgood : isGood lifetime history now (some name) = true) :
    ¬Outstanding lifetime (history ++ ⟨now, .consume (some name)⟩ :: between) name issued := by
  rintro ⟨before, since, hsplit, hunused⟩
  obtain ⟨hregular, htime, _⟩ := h.cut
  rcases List.append_eq_append_iff.mp hsplit with ⟨mid, rfl, hmid⟩ | ⟨mid, rfl, hmid⟩
  · -- The state was issued after its good use, and for that also before it.
    cases mid with
    | nil => cases hmid
    | cons used mid =>
        obtain ⟨name', _, heq, _, hout, _⟩ := (hregular.tracked htime).isGood_iff.mp hgood
        obtain rfl := Option.some.inj heq
        refine (hsplit ▸ h).cut.2.2 name rfl ?_
        rw [issuedIn, List.filterMap_append]
        exact List.mem_append_left _ hout.mem_issuedIn
  · -- Its good use comes after its issue.
    cases mid with
    | nil => cases hmid
    | cons first mid =>
        obtain ⟨rfl, rfl⟩ := List.cons.inj hmid
        exact absurd hgood (by simp [hunused mid now between rfl])

/-- A store of states lets every state be used once, within its lifetime. -/
theorem states_single_use (lifetime : Clock) (h : Regular history) :
    SingleUse lifetime history where
  good_iff := by
    rintro before now state rest rfl
    obtain ⟨hregular, htime, _⟩ := h.cut
    exact (hregular.tracked htime).isGood_iff
  once := by
    rintro before now name between later rest rfl hgood
    obtain ⟨hregular, htime, _⟩ := h.cut
    rw [← Bool.not_eq_true, (hregular.tracked htime).isGood_iff]
    rintro ⟨name', issued, heq, _, hout, _⟩
    obtain rfl := Option.some.inj heq
    exact hregular.not_outstanding_of_isGood hgood hout
  alone := by
    rintro before now name rest rfl
    obtain ⟨hregular, htime, _⟩ := h.cut
    exact hregular.isGood_filter htime fun _ => hregular.outstanding_filter
  held_iff := by
    rintro before event rest rfl name issued
    obtain ⟨hregular, htime, hnew⟩ := h.cut
    exact (hregular.tracked htime).mem_held_snoc hnew

/-- A state is good at the very end of its lifetime, and then no more. -/
theorem states_single_use_at_end :
    let first : List (AuthEvent Int) := [⟨0, .issue "a"⟩, ⟨3, .issue "b"⟩]
    let history := first ++ [⟨600, .consume (some "a")⟩] ++ [⟨601, .consume (some "a")⟩] ++
      [⟨604, .consume (some "b")⟩]
    Regular history ∧ SingleUse 600 history ∧ isGood 600 first 600 (some "a") = true ∧
      isGood 600 (first ++ [⟨600, .consume (some "a")⟩]) 601 (some "a") = false ∧
      isGood 600 (first ++ [⟨600, .consume (some "a")⟩] ++ [⟨601, .consume (some "a")⟩]) 604
        (some "b") = false := by
  have hregular : Regular ([⟨0, .issue "a"⟩, ⟨3, .issue "b"⟩, ⟨600, .consume (some "a")⟩,
      ⟨601, .consume (some "a")⟩, ⟨604, .consume (some "b")⟩] : List (AuthEvent Int)) :=
    ⟨by decide, by decide⟩
  exact ⟨hregular, states_single_use 600 hregular, by decide, by decide, by decide⟩

end

end AuthStates

end DesignBridge
