import RobotConsole.Proofs.Dict.Lookup
import RobotConsole.Proofs.Wire.Reading

/-!
# The image of a value

Every JSON value that can be held is a reading. The reading has the shape of the value: each item
and each member is the image of its own, and of the members of one name the last one counts.
-/

namespace RobotConsole
namespace Reading

/-- The reading has the shape of the value, at every level. -/
inductive Mirrors : Reading -> Json -> Prop where
  | null : Mirrors null .null
  | bool (b : Bool) : Mirrors (bool b) (.bool b)
  | int {n : Int} (fits : Numeric.fitsInt64 n) : Mirrors (int n) (.integer n)
  /-- A whole number beyond 64 bits with a sign. -/
  | whole {n : Int} (beyond : ¬ Numeric.fitsInt64 n) : Mirrors (float (Float.ofInt n)) (.integer n)
  | float (x : Float) : Mirrors (float x) (.float x)
  | text (s : String) : Mirrors (text s) (.string s)
  | list {items : List Reading} {values : List Json} (all : items.length = values.length)
      (each : forall (i : Nat) item value, items[i]? = some item -> values[i]? = some value ->
        Mirrors item value) :
      Mirrors (list items) (.array values)
  | map {entries : List (String × Reading)} {members : List (String × Json)}
      (ascending : Dict.Ascending entries)
      (all : forall name, (exists r, (name, r) ∈ entries) ↔ exists j, (name, j) ∈ members)
      (each : forall name r j, (name, r) ∈ entries -> Dict.IsLast members name j -> Mirrors r j) :
      Mirrors (map entries) (.object members)

/-! ## Variants in turn -/

def null? : Json -> Option Reading
  | .null => some null
  | _ => none

def bool? : Json -> Option Reading
  | .bool b => some (bool b)
  | _ => none

def int? : Json -> Option Reading
  | .integer n => if Numeric.fitsInt64 n then some (int n) else none
  | _ => none

def float? : Json -> Option Reading
  | .integer n => some (float (Float.ofInt n))
  | .float x => some (float x)
  | _ => none

def text? : Json -> Option Reading
  | .string s => some (text s)
  | _ => none

section

variable (decode : Json -> Option Reading)

def list? : Json -> Option Reading
  | .array items => (items.mapM decode).map list
  | _ => none

def map? : Json -> Option Reading
  | .object members => do
      let entries ← members.mapM fun (name, value) => (decode value).map fun r => (name, r)
      some (map (Dict.ofList entries))
  | _ => none

/-- A decoder that takes the first variant that a value fits, and decodes in the same way what is
inside of the value. -/
def TriesInTurn : Prop :=
  forall j, decode j = (null? j <|> bool? j <|> int? j <|> float? j <|> text? j <|>
    list? decode j <|> map? decode j)

end

/-! ## The image -/

theorem isLast_ofMembers {members : List (String × Json)} {name : String} {j : Json}
    (last : Dict.IsLast members name j) : Dict.IsLast (ofMembers members) name (ofJson j) := by
  obtain ⟨before, after, rfl, fresh⟩ := last
  refine ⟨ofMembers before, ofMembers after, ?_, ?_⟩
  · simp only [ofMembers_eq, List.map_append, List.map_cons]
  · rintro ⟨other, r⟩ mem
    obtain ⟨value, given, -⟩ := mem_ofMembers mem
    exact fresh (other, value) given

theorem mem_ofList_iff_of_isLast {members : List (String × Json)} {name : String} {j : Json}
    (last : Dict.IsLast members name j) (r : Reading) :
    (name, r) ∈ Dict.ofList (ofMembers members) ↔ r = ofJson j := by
  rw [← (Dict.ascending_ofList _).find?_iff, Dict.find?_ofList_of_isLast (isLast_ofMembers last),
    Option.some.injEq, eq_comm]

theorem mirrors_ofJson (j : Json) : Mirrors (ofJson j) j := by
  induction j using Json.induction with
  | null => exact .null
  | bool b => exact .bool b
  | integer n =>
      unfold ofJson
      split
      · exact .int ‹_›
      · exact .whole ‹_›
  | float x => exact .float x
  | string s => exact .text s
  | array items ih =>
      have image : ofItems items = items.map ofJson := ofItems_eq items
      apply Mirrors.list
      · rw [image, List.length_map]
      · intro i item value at' given
        rw [image, List.getElem?_map, given] at at'
        cases at'
        exact ih value (List.mem_of_getElem? given)
  | object members ih =>
      apply Mirrors.map (Dict.ascending_ofList _)
      · intro name
        constructor
        · rintro ⟨r, mem⟩
          obtain ⟨j, given, -⟩ := mem_ofMembers (Dict.mem_of_mem_ofList mem)
          exact ⟨j, given⟩
        · rintro ⟨j, given⟩
          obtain ⟨last, isLast⟩ := Dict.exists_isLast given
          exact ⟨ofJson last, (mem_ofList_iff_of_isLast isLast _).2 rfl⟩
      · intro name r j mem isLast
        cases (mem_ofList_iff_of_isLast isLast r).1 mem
        obtain ⟨before, after, rfl, -⟩ := isLast
        exact ih name j (List.mem_append_right before List.mem_cons_self)

theorem Mirrors.eq_ofJson {r : Reading} {j : Json} (mirrors : Mirrors r j) : r = ofJson j := by
  induction mirrors with
  | null => rfl
  | bool b => rfl
  | int fits => exact (if_pos fits).symm
  | whole beyond => exact (if_neg beyond).symm
  | float x => rfl
  | text s => rfl
  | @list items values all each ih =>
      show Reading.list items = Reading.list (ofItems values)
      rw [ofItems_eq]
      congr 1
      apply List.ext_getElem (by rw [List.length_map, all])
      intro i inside inside'
      rw [List.getElem_map]
      exact ih i _ _ (List.getElem?_eq_getElem inside) (List.getElem?_eq_getElem (all ▸ inside))
  | @map entries members ascending all each ih =>
      show Reading.map entries = Reading.map (Dict.ofList (ofMembers members))
      congr 1
      apply ascending.ext (Dict.ascending_ofList _)
      intro name
      ext r
      rw [ascending.find?_iff, (Dict.ascending_ofList _).find?_iff]
      constructor
      · intro mem
        obtain ⟨j, given⟩ := (all name).1 ⟨r, mem⟩
        obtain ⟨last, isLast⟩ := Dict.exists_isLast given
        exact (mem_ofList_iff_of_isLast isLast r).2 (ih name r last mem isLast)
      · intro mem
        obtain ⟨j, given, -⟩ := mem_ofMembers (Dict.mem_of_mem_ofList mem)
        obtain ⟨last, isLast⟩ := Dict.exists_isLast given
        obtain ⟨r', mem'⟩ := (all name).2 ⟨j, given⟩
        rw [(mem_ofList_iff_of_isLast isLast r).1 mem, ← ih name r' last mem' isLast]
        exact mem'

theorem mirrors_iff {r : Reading} {j : Json} : Mirrors r j ↔ r = ofJson j := by
  constructor
  · exact Mirrors.eq_ofJson
  · rintro rfl
    exact mirrors_ofJson j

/-! ## What trying in turn comes to -/

theorem mapM_of_forall {α : Type} {β : Type} {f : α -> Option β} {g : α -> β} {xs : List α}
    (each : forall x, x ∈ xs -> f x = some (g x)) : xs.mapM f = some (xs.map g) := by
  induction xs with
  | nil => rfl
  | cons x rest ih =>
      obtain ⟨first, others⟩ := List.forall_mem_cons.1 each
      rw [List.mapM_cons, first, ih others]
      rfl

theorem list?_of_forall {decode : Json -> Option Reading} {items : List Json}
    (each : forall item, item ∈ items -> decode item = some (ofJson item)) :
    list? decode (.array items) = some (ofJson (.array items)) := by
  unfold list?
  dsimp only
  rw [mapM_of_forall each, ← ofItems_eq]
  rfl

theorem map?_of_forall {decode : Json -> Option Reading} {members : List (String × Json)}
    (each : forall name value, (name, value) ∈ members -> decode value = some (ofJson value)) :
    map? decode (.object members) = some (ofJson (.object members)) := by
  have entries : (members.mapM fun (name, value) => (decode value).map fun r => (name, r)) =
      some (ofMembers members) := by
    rw [ofMembers_eq]
    apply mapM_of_forall
    rintro ⟨name, value⟩ mem
    exact congrArg (Option.map fun r => (name, r)) (each name value mem)
  unfold map?
  dsimp only
  rw [entries]
  rfl

/-- What fits a variant before the last two is decoded whatever becomes of other values, and an
array or an object as soon as all that is in it is. -/
theorem inTurn_of_image {decode : Json -> Option Reading} (j : Json)
    (items : forall items, j = .array items -> forall item, item ∈ items ->
      decode item = some (ofJson item))
    (members : forall members, j = .object members -> forall name value, (name, value) ∈ members ->
      decode value = some (ofJson value)) :
    (null? j <|> bool? j <|> int? j <|> float? j <|> text? j <|> list? decode j <|>
      map? decode j) = some (ofJson j) := by
  cases j with
  | null => rfl
  | bool b => rfl
  | integer n =>
      unfold int? ofJson
      dsimp only
      split <;> rfl
  | float x => rfl
  | string s => rfl
  | array values =>
      show (list? decode (.array values) <|> map? decode (.array values)) = _
      rw [list?_of_forall (items values rfl)]
      rfl
  | object values => exact map?_of_forall (members values rfl)

/-- A decoder that tries the variants in turn decodes every value, and decodes it to its image. -/
theorem triesInTurn_iff {decode : Json -> Option Reading} :
    TriesInTurn decode ↔ forall j, decode j = some (ofJson j) := by
  constructor
  · intro inTurn j
    induction j using Json.induction with
    | array items ih =>
        refine (inTurn _).trans (inTurn_of_image _ ?_ nofun)
        rintro _ ⟨⟩
        exact ih
    | object members ih =>
        refine (inTurn _).trans (inTurn_of_image _ nofun ?_)
        rintro _ ⟨⟩
        exact ih
    | _ => exact (inTurn _).trans (inTurn_of_image _ nofun nofun)
  · intro image j
    rw [image, inTurn_of_image]
    · exact fun _ _ item _ => image item
    · exact fun _ _ _ value _ => image value

end Reading
end RobotConsole
