import Mathlib.Data.List.Forall2
import RobotConsole.Proofs.Wire.Decoded
import RobotConsole.Proofs.Wire.Image

/-!
# Readings that may be anything

Whether a batch or a log event is decoded, and what is wrong if it is not, does not depend on the
values of its readings or of its context, as long as they are values at all. The argument takes two
drafts that are the same but for such values through the decoders side by side.
-/

namespace RobotConsole
namespace Wire

open Json (Draft Ending)

/-! ## Decoding side by side -/

/-- Both succeed, with results that are related, or both fail in the same way. -/
inductive Alike {α : Type} {β : Type} (R : α -> β -> Prop) : Decoded α -> Decoded β -> Prop where
  | ok {a : α} {b : β} (related : R a b) : Alike R (.ok a) (.ok b)
  | error (e : WireError) : Alike R (.error e) (.error e)

def outcome {α : Type} (x : Decoded α) : Decoded Unit :=
  x.map fun _ => ()

namespace Alike

section

variable {α β α' β' : Type} {R : α -> β -> Prop} {S : α' -> β' -> Prop} {x : Decoded α}
  {y : Decoded β}

theorem outcome_eq (alike : Alike R x y) : outcome x = outcome y := by
  cases alike <;> rfl

theorem bind {f : α -> Decoded α'} {g : β -> Decoded β'} (alike : Alike R x y)
    (next : forall a b, R a b -> Alike S (f a) (g b)) : Alike S (x.bind f) (y.bind g) := by
  cases alike with
  | ok related => exact next _ _ related
  | error e => exact .error e

theorem map {f : α -> α'} {g : β -> β'} (alike : Alike R x y)
    (next : forall a b, R a b -> S (f a) (g b)) : Alike S (x.map f) (y.map g) := by
  cases alike with
  | ok related => exact .ok (next _ _ related)
  | error e => exact .error e

end

theorem bind_self {α α' β' : Type} {S : α' -> β' -> Prop} (x : Decoded α)
    {f : α -> Decoded α'} {g : α -> Decoded β'} (next : forall a, Alike S (f a) (g a)) :
    Alike S (x.bind f) (x.bind g) := by
  cases x with
  | ok a => exact next a
  | error e => exact .error e

end Alike

/-! ## Drafts that are the same but for some values -/

/-- Two drafts of values that can be held, if they are not the same draft. -/
def Replaced (d d' : Draft) : Prop :=
  d = d' ∨ d.value?.isSome ∧ d'.value?.isSome

/-- The same drafts, unless the name is one of those for which they need only be related. -/
def SameUnless (free : String -> Prop) (rel : Draft -> Draft -> Prop) (name : String)
    (d d' : Draft) : Prop :=
  d = d' ∨ free name ∧ rel d d'

def SameMembers (rel : String -> Draft -> Draft -> Prop) (ms ms' : List (String × Draft)) : Prop :=
  List.Forall₂ (fun m m' => m.1 = m'.1 ∧ rel m.1 m.2 m'.2) ms ms'

/-- As many items, each as the relation has it for the field in whose place it stands. -/
inductive SameItems (rel : String -> Draft -> Draft -> Prop) :
    List String -> List Draft -> List Draft -> Prop where
  | nil (fields : List String) : SameItems rel fields [] []
  | beyond (items : List Draft) : SameItems rel [] items items
  | cons {field : String} {fields : List String} {item item' : Draft} {items items' : List Draft}
      (first : rel field item item') (others : SameItems rel fields items items') :
      SameItems rel (field :: fields) (item :: items) (item' :: items')

inductive SameRecord (fields : List String) (rel : String -> Draft -> Draft -> Prop) :
    Draft -> Draft -> Prop where
  | same (d : Draft) : SameRecord fields rel d d
  | object {ms ms' : List (String × Draft)} {ending : Ending} (each : SameMembers rel ms ms') :
      SameRecord fields rel (.object ms ending) (.object ms' ending)
  | array {items items' : List Draft} {ending : Ending} (each : SameItems rel fields items items') :
      SameRecord fields rel (.array items ending) (.array items' ending)

def SameReadings : Draft -> Draft -> Prop :=
  SameRecord [] fun _ => Replaced

def SameSamples : Draft -> Draft -> Prop :=
  SameRecord [] fun _ => SameReadings

/-- Batches that are the same but for the values of their readings. -/
def SameBatch : Draft -> Draft -> Prop :=
  SameRecord ["kind", "timestamp_ms", "samples", "disconnect"]
    (SameUnless (fun name => name = "samples") SameSamples)

/-- Log events that are the same but for the values of their context. -/
def SameLog : Draft -> Draft -> Prop :=
  SameRecord [] (SameUnless (fun name => name ∉ LogEvent.fieldNames) Replaced)

def SameData : EventType -> Draft -> Draft -> Prop
  | .telemetry => SameBatch
  | .log => SameLog

/-- Events of the given type that are the same but for the values of readings or context. -/
def SameEvent (type : EventType) : Draft -> Draft -> Prop :=
  SameRecord ["type", "data"] fun name d d' =>
    d = d' ∧ (name = "type" -> decodeEventType d = .ok type) ∨ name = "data" ∧ SameData type d d'

/-! ## Setting aside -/

def Held (rel : Draft -> Draft -> Prop) : Prop :=
  forall d d', rel d d' ->
    Option.Rel (fun j j' => rel (.ofJson j) (.ofJson j')) d.value? d'.value?

section

variable {fields : List String} {rel : String -> Draft -> Draft -> Prop}

theorem held_self (rel : Draft -> Draft -> Prop) (refl : forall d, rel d d) (d : Draft) :
    Option.Rel (fun j j' => rel (.ofJson j) (.ofJson j')) d.value? d.value? := by
  cases d.value? with
  | none => exact .none
  | some j => exact .some (refl _)

theorem held_replaced : Held Replaced := by
  rintro d d' (rfl | ⟨held, held'⟩)
  · exact held_self Replaced (fun d => .inl rfl) d
  · obtain ⟨j, value⟩ := Option.isSome_iff_exists.1 held
    obtain ⟨j', value'⟩ := Option.isSome_iff_exists.1 held'
    rw [value, value']
    refine .some (.inr ?_)
    rw [Json.Draft.value?_ofJson, Json.Draft.value?_ofJson]
    exact ⟨rfl, rfl⟩

theorem rel_map {α β α' β' : Type} {R : α -> β -> Prop} {S : α' -> β' -> Prop} {x : Option α}
    {y : Option β} {f : α -> α'} {g : β -> β'} (related : Option.Rel R x y)
    (next : forall a b, R a b -> S (f a) (g b)) : Option.Rel S (x.map f) (y.map g) := by
  cases related with
  | some related => exact .some (next _ _ related)
  | none => exact .none

theorem rel_bind {α β α' β' : Type} {R : α -> β -> Prop} {S : α' -> β' -> Prop} {x : Option α}
    {y : Option β} {f : α -> Option α'} {g : β -> Option β'} (related : Option.Rel R x y)
    (next : forall a b, R a b -> Option.Rel S (f a) (g b)) :
    Option.Rel S (x.bind f) (y.bind g) := by
  cases related with
  | some related => exact next _ _ related
  | none => exact .none

theorem SameMembers.held (held : forall name, Held (rel name)) {ms ms' : List (String × Draft)}
    (same : SameMembers rel ms ms') :
    Option.Rel (fun js js' => SameMembers rel (Json.Draft.ofMembers js) (Json.Draft.ofMembers js'))
      (Json.Draft.members? ms) (Json.Draft.members? ms') := by
  induction same with
  | nil => exact .some .nil
  | @cons m m' rest rest' first others ih =>
      obtain ⟨name, d⟩ := m
      obtain ⟨name', d'⟩ := m'
      obtain ⟨rfl, first⟩ := first
      refine rel_bind (held name d d' first) fun j j' related => ?_
      exact rel_bind ih fun js js' others => .some (.cons ⟨rfl, related⟩ others)

theorem SameItems.held (held : forall name, Held (rel name)) {items items' : List Draft}
    (same : SameItems rel fields items items') :
    Option.Rel (fun js js' => SameItems rel fields (Json.Draft.ofItems js) (Json.Draft.ofItems js'))
      (Json.Draft.items? items) (Json.Draft.items? items') := by
  induction same with
  | nil fields => exact .some (.nil fields)
  | beyond items =>
      cases Json.Draft.items? items with
      | none => exact .none
      | some js => exact .some (.beyond _)
  | @cons field fields item item' items items' first others ih =>
      refine rel_bind (held field item item' first) fun j j' related => ?_
      exact rel_bind ih fun js js' others => .some (.cons related others)

theorem SameRecord.held (held : forall name, Held (rel name)) : Held (SameRecord fields rel) := by
  intro d d' same
  cases same with
  | same => exact held_self _ .same d
  | @object ms ms' ending each =>
      cases ending with
      | closed => exact rel_map (each.held held) fun js js' same => .object same
      | _ => exact .none
  | @array items items' ending each =>
      cases ending with
      | closed => exact rel_map (each.held held) fun js js' same => .array same
      | _ => exact .none

theorem Held.sameUnless {rel : Draft -> Draft -> Prop} (held : Held rel) (free : String -> Prop)
    (name : String) : Held (SameUnless free rel name) := by
  rintro d d' (rfl | ⟨isFree, related⟩)
  · exact held_self (SameUnless free rel name) (fun _ => .inl rfl) d
  · have both := held d d' related
    generalize d.value? = value, d'.value? = value' at both ⊢
    cases both with
    | some related => exact .some (.inr ⟨isFree, related⟩)
    | none => exact .none

theorem held_sameData (type : EventType) : Held (SameData type) := by
  have readings : Held SameReadings := SameRecord.held fun _ => held_replaced
  have samples : Held SameSamples := SameRecord.held fun _ => readings
  cases type with
  | telemetry => exact SameRecord.held (samples.sameUnless _)
  | log => exact SameRecord.held (held_replaced.sameUnless _)

/-! ## Members side by side -/

theorem alike_foldMembers {σ : Type} {R : σ -> σ -> Prop}
    {step : σ -> String -> Draft -> Decoded σ} {s s' : σ} {ms ms' : List (String × Draft)}
    (start : R s s') (each : SameMembers rel ms ms') (ending : Ending)
    (next : forall s s' name d d', R s s' -> rel name d d' ->
      Alike R (step s name d) (step s' name d')) :
    Alike R (foldMembers step s ms ending) (foldMembers step s' ms' ending) := by
  induction each generalizing s s' with
  | nil => exact .bind_self (expectClosed ending) fun _ => .ok start
  | @cons m m' rest rest' first others ih =>
      obtain ⟨name, d⟩ := m
      obtain ⟨name', d'⟩ := m'
      obtain ⟨rfl, first⟩ := first
      exact (next s s' name d d' start first).bind fun s s' related => ih related

theorem SameItems.zip {items items' : List Draft} (same : SameItems rel fields items items') :
    SameMembers rel (fields.zip items) (fields.zip items') ∧ items.length = items'.length := by
  induction same with
  | nil fields =>
      rw [List.zip_nil_right]
      exact ⟨.nil, rfl⟩
  | beyond items => exact ⟨.nil, rfl⟩
  | cons first others ih => exact ⟨.cons ⟨rfl, first⟩ ih.1, congrArg Nat.succ ih.2⟩

theorem alike_recordMembers {d d' : Draft} (required : Nat) (same : SameRecord fields rel d d') :
    d = d' ∨ Alike (fun m m' => SameMembers rel m.1 m'.1 ∧ m.2 = m'.2)
      (recordMembers fields required d) (recordMembers fields required d') := by
  cases same with
  | same => exact .inl rfl
  | object each => exact .inr (.ok ⟨each, rfl⟩)
  | @array items items' ending each =>
      obtain ⟨zip, length⟩ := each.zip
      refine .inr (.ok ⟨zip, ?_⟩)
      dsimp only
      rw [length]

end

/-! ## Readings -/

def Any {α β : Type} (_ : α) (_ : β) : Prop :=
  True

theorem alike_self {α : Type} (x : Decoded α) : Alike Any x x := by
  cases x with
  | ok a => exact .ok trivial
  | error e => exact .error e

section

variable {d d' : Draft}

theorem alike_decodeReading (same : Replaced d d') :
    Alike Any (decodeReading d) (decodeReading d') := by
  rcases same with rfl | ⟨held, held'⟩
  · exact alike_self _
  · obtain ⟨j, value⟩ := Option.isSome_iff_exists.1 held
    obtain ⟨j', value'⟩ := Option.isSome_iff_exists.1 held'
    unfold decodeReading decodeValue
    rw [value, value']
    exact .ok trivial

theorem alike_decodeReadings (same : SameReadings d d') :
    Alike Any (decodeReadings d) (decodeReadings d') := by
  cases same with
  | same => exact alike_self _
  | object each =>
      refine alike_foldMembers trivial each _ ?_
      intro s s' name d d' _ same
      exact (alike_decodeReading same).bind fun _ _ _ => .ok trivial
  | array => exact alike_self _

theorem alike_decodeSamples (same : SameSamples d d') :
    Alike Any (decodeSamples d) (decodeSamples d') := by
  cases same with
  | same => exact alike_self _
  | object each =>
      refine alike_foldMembers trivial each _ ?_
      intro s s' name d d' _ same
      refine .bind_self (deviceOfText name) fun id => ?_
      exact (alike_decodeReadings same).bind fun _ _ _ => .ok trivial
  | array => exact alike_self _

/-! ## Batches and log events -/

theorem alike_setOnce {α : Type} {decode : Draft -> Decoded α} {old old' : Option α}
    (given : old.isSome = old'.isSome) (name : String)
    (alike : Alike Any (decode d) (decode d')) :
    Alike (fun new new' => new.isSome = new'.isSome) (setOnce name old decode d)
      (setOnce name old' decode d') := by
  cases old with
  | none => cases old' with
    | none => exact alike.map fun _ _ _ => rfl
    | some a => cases given
  | some a => cases old' with
    | none => cases given
    | some a' => exact .error _

structure BatchFields.Matches (fields fields' : BatchFields) : Prop where
  kind : fields.kind? = fields'.kind?
  timestamp : fields.timestamp? = fields'.timestamp?
  samples : fields.samples?.isSome = fields'.samples?.isSome
  disconnect : fields.disconnect? = fields'.disconnect?

theorem BatchFields.Matches.step {setAside : Bool} {fields fields' : BatchFields} {name : String}
    (matching : fields.Matches fields')
    (same : SameUnless (fun name => name = "samples") SameSamples name d d') :
    Alike Matches (BatchFields.step setAside fields name d)
      (BatchFields.step setAside fields' name d') := by
  obtain ⟨kind?, timestamp?, samples?, disconnect?⟩ := fields
  obtain ⟨_, _, samples?', _⟩ := fields'
  obtain ⟨rfl, rfl, given, rfl⟩ := matching
  by_cases isSamples : name = "samples"
  · subst isSamples
    have samples : SameSamples d d' := by
      rcases same with rfl | ⟨-, samples⟩
      · exact .same d
      · exact samples
    refine (alike_setOnce given _ (alike_decodeSamples samples)).bind ?_
    intro new new' given
    exact .ok ⟨rfl, rfl, given, rfl⟩
  · obtain rfl := same.resolve_right fun free => isSamples free.1
    unfold BatchFields.step
    split
    · exact .bind_self _ fun _ => .ok ⟨rfl, rfl, given, rfl⟩
    split
    · exact .bind_self _ fun _ => .ok ⟨rfl, rfl, given, rfl⟩
    split
    · exact .bind_self _ fun _ => .ok ⟨rfl, rfl, given, rfl⟩
    · exact .bind_self _ fun _ => .ok ⟨rfl, rfl, given, rfl⟩

theorem alike_decodeBatch (setAside : Bool) (same : SameBatch d d') :
    Alike Any (decodeBatch setAside d) (decodeBatch setAside d') := by
  rcases alike_recordMembers 1 same with rfl | alike
  · exact alike_self _
  refine alike.bind ?_
  rintro ⟨ms, ending⟩ ⟨ms', ending'⟩ ⟨each, rfl⟩
  refine (alike_foldMembers (R := BatchFields.Matches) ⟨rfl, rfl, rfl, rfl⟩ each ending ?_).bind ?_
  · intro fields fields' name d d' matching same
    exact matching.step same
  · intro fields fields' matching
    unfold BatchFields.finish
    rw [matching.kind]
    split
    · exact .error _
    · exact .ok trivial

structure LogFields.Matches (fields fields' : LogFields) : Prop where
  timestamp : fields.timestamp? = fields'.timestamp?
  level : fields.level? = fields'.level?
  message : fields.message? = fields'.message?

theorem LogFields.Matches.step {setAside : Bool} {fields fields' : LogFields} {name : String}
    (matching : fields.Matches fields')
    (same : SameUnless (fun name => name ∉ LogEvent.fieldNames) Replaced name d d') :
    Alike Matches (LogFields.step setAside fields name d)
      (LogFields.step setAside fields' name d') := by
  obtain ⟨timestamp?, level?, message?, context⟩ := fields
  obtain ⟨_, _, _, context'⟩ := fields'
  obtain ⟨rfl, rfl, rfl⟩ := matching
  by_cases field : name ∈ LogEvent.fieldNames
  · obtain rfl := same.resolve_right fun free => free.1 field
    unfold LogFields.step
    split
    · exact .bind_self _ fun _ => .ok ⟨rfl, rfl, rfl⟩
    split
    · exact .bind_self _ fun _ => .ok ⟨rfl, rfl, rfl⟩
    split
    · exact .bind_self _ fun _ => .ok ⟨rfl, rfl, rfl⟩
    · exact .bind_self _ fun _ => .ok ⟨rfl, rfl, rfl⟩
  · have value : Replaced d d' := by
      rcases same with rfl | ⟨-, value⟩
      · exact .inl rfl
      · exact value
    simp only [LogEvent.fieldNames, List.mem_cons, List.not_mem_nil, or_false, not_or] at field
    obtain ⟨notTimestamp, notLevel, notMessage, notEvent⟩ := field
    unfold LogFields.step
    rw [if_neg notTimestamp, if_neg notLevel, if_neg (not_or.2 ⟨notMessage, notEvent⟩),
      if_neg notTimestamp, if_neg notLevel, if_neg (not_or.2 ⟨notMessage, notEvent⟩)]
    exact (alike_decodeReading value).bind fun _ _ _ => .ok ⟨rfl, rfl, rfl⟩

theorem alike_decodeLog (setAside : Bool) (same : SameLog d d') :
    Alike Any (decodeLog setAside d) (decodeLog setAside d') := by
  cases same with
  | same => exact alike_self _
  | object each =>
      refine (alike_foldMembers (R := LogFields.Matches) ⟨rfl, rfl, rfl⟩ each _ ?_).bind ?_
      · intro fields fields' name d d' matching same
        exact matching.step same
      · intro fields fields' matching
        unfold LogFields.finish
        rw [matching.message]
        split
        · exact .error _
        · exact .ok trivial
  | array => exact alike_self _

/-! ## Events -/

theorem alike_decodeData (setAside : Bool) (type : EventType) (same : SameData type d d') :
    Alike Any (decodeData setAside type d) (decodeData setAside type d') := by
  cases type with
  | telemetry => exact (alike_decodeBatch setAside same).map fun _ _ _ => trivial
  | log => exact (alike_decodeLog setAside same).map fun _ _ _ => trivial

inductive EventFields.Matches (type : EventType) : EventFields -> EventFields -> Prop where
  | nothing : Matches type nothing nothing
  | typeKnown : Matches type (typeKnown type) (typeKnown type)
  | dataSetAside {data data' : Json} (same : SameData type (.ofJson data) (.ofJson data')) :
      Matches type (dataSetAside data) (dataSetAside data')
  | whole (event event' : TransportEvent) : Matches type (whole event) (whole event')

theorem sameData_self (type : EventType) (d : Draft) : SameData type d d := by
  cases type with
  | telemetry => exact .same d
  | log => exact .same d

theorem alike_decodeValue {rel : Draft -> Draft -> Prop} (held : Held rel) (same : rel d d') :
    Alike (fun j j' => rel (.ofJson j) (.ofJson j')) (decodeValue d) (decodeValue d') := by
  have both := held d d' same
  unfold decodeValue
  generalize d.value? = value, d'.value? = value' at both ⊢
  cases both with
  | some related => exact .ok related
  | none => exact .error _

theorem EventFields.Matches.step {type : EventType} {fields fields' : EventFields} {name : String}
    (matching : Matches type fields fields')
    (same : d = d' ∧ (name = "type" -> decodeEventType d = .ok type) ∨
      name = "data" ∧ SameData type d d') :
    Alike (Matches type) (EventFields.step fields name d) (EventFields.step fields' name d') := by
  unfold EventFields.step
  by_cases isType : name = "type"
  · subst isType
    obtain ⟨rfl, typed⟩ := same.resolve_right fun data => absurd data.1 (by decide)
    rw [if_pos rfl, if_pos rfl, typed rfl]
    cases matching with
    | nothing => exact .ok .typeKnown
    | typeKnown => exact .error _
    | dataSetAside data =>
        exact (alike_decodeData true type data).bind fun _ _ _ => .ok (.whole _ _)
    | whole => exact .error _
  rw [if_neg isType, if_neg isType]
  by_cases isData : name = "data"
  · have data : SameData type d d' := by
      rcases same with ⟨rfl, -⟩ | ⟨-, data⟩
      · exact sameData_self type d
      · exact data
    rw [if_pos isData, if_pos isData]
    cases matching with
    | nothing =>
        refine (alike_decodeValue (held_sameData type) data).bind fun _ _ same => ?_
        exact .ok (.dataSetAside same)
    | typeKnown =>
        exact (alike_decodeData false type data).bind fun _ _ _ => .ok (.whole _ _)
    | dataSetAside => exact .error _
    | whole => exact .error _
  · obtain ⟨rfl, -⟩ := same.resolve_right fun data => isData data.1
    rw [if_neg isData, if_neg isData]
    exact .bind_self _ fun _ => .ok matching

theorem alike_decodeEvent {type : EventType} (same : SameEvent type d d') :
    Alike Any (decodeEvent d) (decodeEvent d') := by
  rcases alike_recordMembers 2 same with rfl | alike
  · exact alike_self _
  refine alike.bind ?_
  rintro ⟨ms, ending⟩ ⟨ms', ending'⟩ ⟨each, rfl⟩
  refine (alike_foldMembers (R := EventFields.Matches type) .nothing each ending ?_).bind ?_
  · intro fields fields' name d d' matching same
    exact matching.step same
  · intro fields fields' matching
    cases matching with
    | whole => exact .ok trivial
    | _ => exact .error _

end

/-- Every value that can be held is decoded, wherever it stands, as the one reading that has its
shape at every level; a decoder that tries the variants of a reading in turn comes to the same. And
whether a batch or a log event is decoded, or what is wrong with it, is the same with any other
values in the places of its readings or of its context. -/
theorem readings_mirror_values_and_reject_nothing :
    (forall j, exists r, (forall r', Reading.Mirrors r' j ↔ r' = r) ∧
      (forall d, decodeValue d = .ok j -> decodeReading d = .ok r) ∧
      (forall s, decodeText decodeValue s = .ok j -> decodeText decodeReading s = .ok r) ∧
      forall decode, Reading.TriesInTurn decode -> decode j = some r) ∧
    (forall setAside d d', SameBatch d d' ->
      outcome (decodeBatch setAside d) = outcome (decodeBatch setAside d')) ∧
    (forall setAside d d', SameLog d d' ->
      outcome (decodeLog setAside d) = outcome (decodeLog setAside d')) ∧
    forall type d d', SameEvent type d d' ->
      outcome (decodeEvent d) = outcome (decodeEvent d') := by
  refine ⟨?_, ?_, ?_, ?_⟩
  · intro j
    refine ⟨.ofJson j, fun _ => Reading.mirrors_iff, ?_, ?_, ?_⟩
    · intro d value
      exact congrArg (Except.map Reading.ofJson) value
    · intro s value
      obtain ⟨value, blank⟩ := decodeChars_eq_ok_iff.1 value
      exact decodeChars_eq_ok_iff.2 ⟨congrArg (Except.map Reading.ofJson) value, blank⟩
    · intro decode inTurn
      exact Reading.triesInTurn_iff.1 inTurn j
  · intro setAside d d' same
    exact (alike_decodeBatch setAside same).outcome_eq
  · intro setAside d d' same
    exact (alike_decodeLog setAside same).outcome_eq
  · intro type d d' same
    exact (alike_decodeEvent same).outcome_eq

end Wire
end RobotConsole
