import Mathlib.Data.List.TakeWhile
import Mathlib.Order.Basic
import RobotConsole.Proofs.Source.Replay

/-!
# The pace of a replay

An event can be released once it and all before it are due. A schedule of polls is prompt for a
recording if each event is released just then. Polls that come often enough are prompt.
-/

namespace RobotConsole

/-! ## Events that wait for one another -/

/-- When events come through that come through in order, each no earlier than after its own offset
if it has one. -/
def paces : Nat -> List (Option Int) -> List Nat
  | _, [] => []
  | reached, offset :: rest =>
      let now := max reached (offset.getD 0).toNat
      now :: paces now rest

def upTo (time : Nat) (times : List Nat) : List Nat :=
  times.takeWhile fun (n : Nat) => n ≤ time

def PassedBy (time : Nat) (offset? : Option Int) : Prop :=
  forall (offset : Int), offset? = some offset -> offset ≤ time

section

variable {reached time : Nat} {offset? : Option Int} {offsets : List (Option Int)}

theorem max_offset_le_iff :
    max reached (offset?.getD 0).toNat ≤ time ↔ reached ≤ time ∧ PassedBy time offset? := by
  unfold PassedBy
  cases offset? with
  | none => simp
  | some offset =>
      simp only [Option.getD_some, Option.some.injEq, forall_eq']
      omega

theorem le_of_mem_paces {n : Nat} (mem : n ∈ paces reached offsets) : reached ≤ n := by
  induction offsets generalizing reached with
  | nil => cases mem
  | cons offset rest ih =>
      rcases List.mem_cons.1 mem with rfl | later
      · exact Nat.le_max_left _ _
      · exact Nat.le_trans (Nat.le_max_left _ _) (ih later)

theorem upTo_cons_of_le {n : Nat} (early : n ≤ time) (times : List Nat) :
    upTo time (n :: times) = n :: upTo time times :=
  List.takeWhile_cons_of_pos (decide_eq_true early)

theorem upTo_of_lt {times : List Nat} (late : forall n, n ∈ times -> time < n) :
    upTo time times = [] := by
  cases times with
  | nil => rfl
  | cons n rest =>
      apply List.takeWhile_cons_of_neg
      simpa using late n List.mem_cons_self

theorem upTo_of_le {times : List Nat} (early : forall n, n ∈ times -> n ≤ time) :
    upTo time times = times := by
  apply List.takeWhile_eq_self_iff.2
  intro n mem
  exact decide_eq_true (early n mem)

end

theorem paces_eq_replicate_append {α : Type} (offset? : α -> Option Int) (due : α -> Bool)
    (reached : Nat) (xs : List α) (dueIff : forall x, due x ↔ PassedBy reached (offset? x)) :
    paces reached (xs.map offset?) =
      List.replicate (xs.takeWhile due).length reached ++
        paces (reached + 1) ((xs.drop (xs.takeWhile due).length).map offset?) := by
  induction xs with
  | nil => rfl
  | cons x rest ih =>
      have now : max reached ((offset? x).getD 0).toNat ≤ reached ↔
          reached ≤ reached ∧ PassedBy reached (offset? x) := max_offset_le_iff
      rw [← dueIff x] at now
      rw [List.map_cons, paces]
      cases isDue : due x with
      | true =>
          have same : max reached ((offset? x).getD 0).toNat = reached :=
            Nat.le_antisymm (now.2 ⟨Nat.le_refl _, isDue⟩) (Nat.le_max_left _ _)
          rw [List.takeWhile_cons_of_pos isDue, same, ih]
          rfl
      | false =>
          have later : max reached ((offset? x).getD 0).toNat =
              max (reached + 1) ((offset? x).getD 0).toNat := by
            have late : ¬ max reached ((offset? x).getD 0).toNat ≤ reached := by
              rw [now, isDue]
              simp
            omega
          rw [List.takeWhile_cons_of_neg (by simp [isDue]), later]
          rfl

/-! ## Leaving events out -/

section

variable {α : Type} (keep : α -> Bool) (offset? offset'? : α -> Option Int)

/-- When those come through that are kept, among all the others. -/
def pacesOfKept (reached : Nat) (xs : List α) : List Nat :=
  (((paces reached (xs.map offset?)).zip xs).filter fun entry => keep entry.2).map Prod.fst

theorem pacesOfKept_cons (reached : Nat) (x : α) (rest : List α) :
    pacesOfKept keep offset? reached (x :: rest) =
      let now := max reached ((offset? x).getD 0).toNat
      if keep x then now :: pacesOfKept keep offset? now rest
      else pacesOfKept keep offset? now rest := by
  unfold pacesOfKept
  rw [List.map_cons, paces, List.zip_cons_cons, List.filter_cons]
  cases keep x <;> rfl

theorem le_of_mem_pacesOfKept {reached n : Nat} {xs : List α}
    (mem : n ∈ pacesOfKept keep offset? reached xs) : reached ≤ n := by
  unfold pacesOfKept at mem
  obtain ⟨⟨_, x⟩, kept, rfl⟩ := List.mem_map.1 mem
  exact le_of_mem_paces (List.of_mem_zip (List.mem_filter.1 kept).1).1

theorem upTo_pacesOfKept (reached time : Nat) (xs : List α) :
    (((upTo time (paces reached (xs.map offset?))).zip xs).filter
        fun entry => keep entry.2).map Prod.fst =
      upTo time (pacesOfKept keep offset? reached xs) := by
  induction xs generalizing reached with
  | nil => rfl
  | cons x rest ih =>
      rw [pacesOfKept_cons, List.map_cons, paces]
      dsimp only
      generalize max reached ((offset? x).getD 0).toNat = now
      by_cases early : now ≤ time
      · rw [upTo_cons_of_le early, List.zip_cons_cons, List.filter_cons]
        cases keep x with
        | true =>
            rw [if_pos rfl, if_pos rfl, upTo_cons_of_le early, ← ih]
            rfl
        | false => exact ih now
      · have nothing : upTo time (now :: paces now (rest.map offset?)) = [] := by
          apply upTo_of_lt
          intro n mem
          rcases List.mem_cons.1 mem with rfl | later
          · exact Nat.lt_of_not_le early
          · exact Nat.lt_of_lt_of_le (Nat.lt_of_not_le early) (le_of_mem_paces later)
        rw [nothing]
        symm
        apply upTo_of_lt
        intro n mem
        have later : now ≤ n := by
          split at mem
          · rcases List.mem_cons.1 mem with rfl | mem
            · exact Nat.le_refl _
            · exact le_of_mem_pacesOfKept keep offset? mem
          · exact le_of_mem_pacesOfKept keep offset? mem
        omega

theorem forall_split_cons {R : List α -> α -> Prop} {x : α} {rest : List α} :
    (forall before y after, x :: rest = before ++ y :: after -> R before y) ↔
      R [] x ∧ forall before y after, rest = before ++ y :: after -> R (x :: before) y := by
  constructor
  · intro all
    refine ⟨all [] x rest rfl, ?_⟩
    intro before y after split
    exact all (x :: before) y after (congrArg (x :: ·) split)
  · rintro ⟨first, others⟩ before y after split
    cases before with
    | nil =>
        cases split
        exact first
    | cons z before =>
        cases split
        exact others before y after rfl

/-- Those that are kept come through at the same times without the others if and only if, at any
time, each of them and all before it are through in both cases or in neither. -/
theorem pacesOfKept_eq_iff (reached reached' : Nat) (xs : List α) :
    pacesOfKept keep offset? reached xs = paces reached' ((xs.filter keep).map offset'?) ↔
      forall before x after, xs = before ++ x :: after -> keep x -> forall time : Nat,
        (reached ≤ time ∧ forall y, y ∈ before ++ [x] -> PassedBy time (offset? y)) ↔
        (reached' ≤ time ∧
          forall y, y ∈ before ++ [x] -> keep y -> PassedBy time (offset'? y)) := by
  induction xs generalizing reached reached' with
  | nil =>
      refine iff_of_true rfl ?_
      intro before x after split
      simp at split
  | cons x rest ih =>
      rw [pacesOfKept_cons, List.filter_cons, forall_split_cons]
      dsimp only
      simp only [List.nil_append, List.cons_append, List.forall_mem_cons, ← and_assoc,
        ← max_offset_le_iff]
      cases kept : keep x with
      | true =>
          rw [if_pos rfl, if_pos rfl, List.map_cons, paces, List.cons.injEq, ih]
          simp only [List.not_mem_nil, false_implies, implies_true, and_true, forall_true_left,
            ← max_offset_le_iff]
          apply and_congr_left'
          exact ⟨fun same time => by rw [same], eq_of_forall_ge_iff⟩
      | false =>
          rw [if_neg Bool.false_ne_true, if_neg Bool.false_ne_true, ih]
          simp

end

/-! ## Prompt schedules -/

namespace Recording

/-- How long after the first poll each event of a recording can be released. -/
def dueTimes (events : List TransportEvent) : List Nat :=
  paces 0 (events.map (wait? events))

end Recording

namespace RecordedSource

/-- How long after the first poll each event is released by a schedule of polls. -/
def delays (s : RecordedSource) (first : Instant) (later : List Instant) : List Nat :=
  (s.releases (first :: later)).map fun released => released.1.elapsed - first.elapsed

def span (first : Instant) (later : List Instant) : Nat :=
  (later.getLast?.getD first).elapsed - first.elapsed

/-- Up to the last poll, every event is released as soon as it and all before it are due. -/
def Prompt (s : RecordedSource) (first : Instant) (later : List Instant) : Prop :=
  s.delays first later =
    upTo (span first later) (Recording.dueTimes (s.load first).pending)

instance (s : RecordedSource) (first : Instant) (later : List Instant) :
    Decidable (s.Prompt first later) :=
  inferInstanceAs (Decidable (_ = _))

/-! ## Polls in every millisecond -/

def polls (each start count : Nat) : List Instant :=
  (List.range' start count).flatMap fun elapsed => List.replicate each ⟨0, elapsed⟩

theorem polls_succ (each start count : Nat) :
    polls each start (count + 1) =
      List.replicate each ⟨0, start⟩ ++ polls each (start + 1) count := by
  unfold polls
  rw [List.range'_succ, List.flatMap_cons]

theorem releases_append (s : RecordedSource) (first second : List Instant) :
    s.releases (first ++ second) = s.releases first ++ (s.pollEach first).releases second := by
  induction first generalizing s with
  | nil => rfl
  | cons now rest ih =>
      rw [List.cons_append, releases, releases, ih, List.append_assoc]
      rfl

section

variable {s : RecordedSource} {r : Replay}

def pendingWait? (r : Replay) (event : TransportEvent) : Option Int :=
  event.recordedAt?.bind fun recorded =>
    r.origin?.map fun origin => Numeric.wrapInt64 (recorded - origin)

theorem isDue_iff (r : Replay) (now : Instant) (event : TransportEvent) :
    isDue r now event ↔ PassedBy (now.elapsed - r.started) (pendingWait? r event) := by
  unfold isDue PassedBy pendingWait?
  cases event.recordedAt? with
  | none => simp
  | some recorded => cases r.origin? <;> simp

theorem releases_replicate (loaded : s.replay? = some r) {each : Nat}
    (enough : r.pending.length ≤ each) (now : Instant) :
    (s.releases (List.replicate each now)).map (fun released => released.1.elapsed) =
      List.replicate (r.pending.takeWhile (isDue r now)).length now.elapsed := by
  have same (other : Instant) (polled : other ∈ List.replicate each now) :
      isDue r other = isDue r now := by
    rw [List.eq_of_mem_replicate polled]
  have atOnce := releases_of_same_due loaded (List.replicate each now) same
  have fits : (r.pending.takeWhile (isDue r now)).length ≤ each :=
    Nat.le_trans (List.takeWhile_prefix _).length_le enough
  have times : forall (each : Nat) (events : List TransportEvent), events.length ≤ each ->
      (List.zipWith (fun now event => (now, restamp now.wall event)) (List.replicate each now)
        events).map (fun released => released.1.elapsed) =
          List.replicate events.length now.elapsed := by
    intro each events enough
    induction events generalizing each with
    | nil => rw [List.zipWith_nil_right]; rfl
    | cons event rest ih => cases each with
      | zero => cases enough
      | succ each => exact congrArg (_ :: ·) (ih each (Nat.le_of_succ_le_succ enough))
  rw [atOnce]
  exact times each _ fits

theorem takeWhile_replicate_append {value bound : Nat} (within : value < bound) (n : Nat)
    (others : List Nat) :
    (List.replicate n value ++ others).takeWhile (fun (due : Nat) => due < bound) =
      List.replicate n value ++ others.takeWhile fun (due : Nat) => due < bound := by
  apply List.takeWhile_append_of_pos
  intro due mem
  rw [List.eq_of_mem_replicate mem]
  exact decide_eq_true within

/-- By induction on the milliseconds: what is due in the first one comes out, and the rest is a
recording that begins one millisecond later. -/
theorem releases_polls (loaded : s.replay? = some r) (started : r.started = 0) {each : Nat}
    (enough : r.pending.length ≤ each) (start count : Nat) :
    (s.releases (polls each start count)).map (fun released => released.1.elapsed) =
      (paces start (r.pending.map (pendingWait? r))).takeWhile
        fun (due : Nat) => due < start + count := by
  induction count generalizing s r start with
  | zero =>
      cases r.pending with
      | nil => rfl
      | cons event rest =>
          symm
          apply List.takeWhile_cons_of_neg
          rw [decide_eq_true_eq]
          omega
  | succ count ih =>
      have first := releases_replicate loaded enough ⟨0, start⟩
      obtain ⟨inOrder, stay⟩ := releases_of_loaded loaded (List.replicate each ⟨0, start⟩)
      have due (event : TransportEvent) :
          isDue r ⟨0, start⟩ event ↔ PassedBy start (pendingWait? r event) := by
        have iff := isDue_iff r ⟨0, start⟩ event
        rwa [started] at iff
      have released : (s.releases (List.replicate each ⟨0, start⟩)).length =
          (r.pending.takeWhile (isDue r ⟨0, start⟩)).length := by
        have lengths := congrArg List.length first
        rwa [List.length_map, List.length_replicate] at lengths
      rw [released] at stay
      have later := ih stay started
        (Nat.le_trans (List.drop_sublist _ _).length_le enough) (start + 1)
      rw [polls_succ, releases_append, List.map_append, first, later,
        paces_eq_replicate_append (pendingWait? r) (isDue r ⟨0, start⟩) start r.pending due,
        takeWhile_replicate_append (by omega), Nat.add_right_comm start 1 count]
      rfl

end

def start : Instant :=
  ⟨0, 0⟩

def dense (each span : Nat) : List Instant :=
  (polls (each + 1) 0 (span + 1)).tail

theorem polls_eq_start_cons (each span : Nat) :
    polls (each + 1) 0 (span + 1) = start :: dense each span := by
  unfold dense
  rw [polls_succ, List.replicate_succ]
  rfl

theorem span_dense (each last : Nat) : span start (dense each last) = last := by
  have ends : (polls (each + 1) 0 (last + 1)).getLast? = some ⟨0, last⟩ := by
    unfold polls
    rw [List.range'_concat, List.flatMap_append, List.flatMap_singleton, List.getLast?_append,
      List.getLast?_replicate, if_neg (Nat.succ_ne_zero each), Option.some_or]
    simp
  rw [polls_eq_start_cons, List.getLast?_cons] at ends
  unfold span
  rw [Option.some.inj ends]
  rfl

theorem prompt_dense (path : String) (file : Except String (List UInt8)) (each last : Nat)
    (enough : ((load { path, file } start).pending).length ≤ each + 1) :
    Prompt { path, file } start (dense each last) := by
  let source : RecordedSource := { path, file }
  obtain ⟨started, origin⟩ := load_frame source start
  have waits : pendingWait? (source.load start) =
      Recording.wait? (source.load start).pending := by
    funext event
    unfold pendingWait? Recording.wait? Recording.offset?
    rw [origin, Option.map_bind]
    congr 1
    funext recorded
    exact (Option.map_map Numeric.wrapInt64 (recorded - ·) _).symm
  have released := releases_polls (s := source.opened start) rfl started enough 0 (last + 1)
  rw [polls_eq_start_cons, ← (polls_opened source start rfl _).1, waits] at released
  unfold Prompt delays Recording.dueTimes upTo
  rw [span_dense]
  show (source.releases _).map (fun released => released.1.elapsed - 0) = _
  simp only [Nat.sub_zero]
  rw [released]
  congr 1
  funext due
  rw [Nat.zero_add, decide_eq_decide]
  exact Nat.lt_succ_iff

end RecordedSource
end RobotConsole
