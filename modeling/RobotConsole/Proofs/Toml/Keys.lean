import RobotConsole.Settings.Layer
import RobotConsole.Toml.Document

/-!
# Keys of TOML documents

A document gives no key twice, neither at its top nor in a table there: whatever is added to a table
is added under a new key, or to a table that is under its key already.
-/

namespace RobotConsole

/-- No member of the value has the name of another one. -/
def Json.Distinct (j : Json) : Prop :=
  (j.members.map Prod.fst).Nodup

namespace Toml

structure Keyed (P : Node -> Prop) (entries : Entries) : Prop where
  distinct : (entries.map Prod.fst).Nodup
  each : forall key node, (key, node) ∈ entries -> P node

abbrev KeyedTop : Entries -> Prop :=
  Keyed fun _ => True

def Node.Tidy : Node -> Prop
  | .value v => v.Distinct
  | .table _ entries => KeyedTop entries
  | .tables _ => True

abbrev KeyedTidy : Entries -> Prop :=
  Keyed Node.Tidy

section

variable {P : Node -> Prop} {entries result : Entries}

theorem keyed_nil : Keyed P [] where
  distinct := List.nodup_nil
  each := nofun

theorem Keyed.top (keyed : Keyed P entries) : KeyedTop entries :=
  ⟨keyed.distinct, fun _ _ _ => trivial⟩

/-! ## One key -/

theorem mem_of_alter? {key : String} {f : Option Node -> Option Node}
    (done : alter? key f entries = some result) {k : String}
    (mem : k ∈ result.map Prod.fst) : k = key ∨ k ∈ entries.map Prod.fst := by
  induction entries generalizing result with
  | nil =>
      obtain ⟨node, -, made⟩ := Option.bind_eq_some_iff.1 done
      cases made
      exact .inl (List.mem_singleton.1 mem)
  | cons entry rest ih =>
      obtain ⟨k', node⟩ := entry
      unfold alter? at done
      split at done
      · obtain ⟨node', -, made⟩ := Option.bind_eq_some_iff.1 done
        cases made
        exact .inr mem
      · obtain ⟨others, later, made⟩ := Option.bind_eq_some_iff.1 done
        cases made
        rcases List.mem_cons.1 mem with rfl | mem
        · exact .inr List.mem_cons_self
        · exact (ih later mem).imp id (List.mem_cons_of_mem _)

theorem Keyed.alter? (keyed : Keyed P entries) {key : String} {f : Option Node -> Option Node}
    (done : Toml.alter? key f entries = some result)
    (kept : forall old node, (forall node, old = some node -> P node) -> f old = some node ->
      P node) : Keyed P result := by
  induction entries generalizing result with
  | nil =>
      obtain ⟨node, new, made⟩ := Option.bind_eq_some_iff.1 done
      cases made
      refine ⟨List.pairwise_singleton _ _, ?_⟩
      intro key node mem
      cases List.mem_singleton.1 mem
      exact kept none _ nofun new
  | cons entry rest ih =>
      obtain ⟨k, node⟩ := entry
      obtain ⟨fresh, distinct⟩ := List.nodup_cons.1 keyed.distinct
      have tail : Keyed P rest :=
        ⟨distinct, fun key node mem => keyed.each key node (List.mem_cons_of_mem _ mem)⟩
      have here : P node := keyed.each k node List.mem_cons_self
      unfold Toml.alter? at done
      split at done
      · obtain ⟨node', new, made⟩ := Option.bind_eq_some_iff.1 done
        cases made
        refine ⟨keyed.distinct, ?_⟩
        intro key other mem
        rcases List.mem_cons.1 mem with same | mem
        · cases same
          exact kept (some node) _ (fun _ same => Option.some.inj same ▸ here) new
        · exact tail.each key other mem
      · rename_i other
        obtain ⟨others, later, made⟩ := Option.bind_eq_some_iff.1 done
        cases made
        have keyed' := ih tail later
        constructor
        · refine List.nodup_cons.2 ⟨?_, keyed'.distinct⟩
          intro mem
          exact (mem_of_alter? later mem).elim other fresh
        · intro key node' mem
          rcases List.mem_cons.1 mem with same | mem
          · cases same
            exact here
          · exact keyed'.each key node' mem

/-! ## Keys with points, and headers -/

theorem keyedTop_assign? {path : List String} {v : Json}
    (done : assign? path v entries = some result) (keyed : KeyedTop entries) : KeyedTop result := by
  match path with
  | [] => cases done
  | [part] => exact keyed.alter? done fun _ _ _ _ => trivial
  | part :: _ :: _ => exact keyed.alter? done fun _ _ _ _ => trivial

theorem keyedTidy_assign? {path : List String} {v : Json} (distinct : v.Distinct)
    (done : assign? path v entries = some result) (keyed : KeyedTidy entries) :
    KeyedTidy result := by
  match path with
  | [] => cases done
  | [part] =>
      apply keyed.alter? done
      intro old node _ new
      cases old with
      | none =>
          cases new
          exact distinct
      | some old => cases new
  | part :: next :: rest =>
      apply keyed.alter? done
      intro old node before new
      match old with
      | none =>
          obtain ⟨inner, made, same⟩ := Option.bind_eq_some_iff.1 new
          cases same
          exact keyedTop_assign? made keyed_nil
      | some (.table origin inner) =>
          dsimp only at new
          split at new
          · obtain ⟨inner', made, same⟩ := Option.bind_eq_some_iff.1 new
            cases same
            exact keyedTop_assign? made (before _ rfl)
          · cases new
      | some (.value _) => cases new
      | some (.tables _) => cases new

/-- A change of entries that keeps them tidy. -/
structure Keeps (f : Entries -> Option Entries) : Prop where
  top : forall entries result, f entries = some result -> KeyedTop entries -> KeyedTop result
  tidy : forall entries result, f entries = some result -> KeyedTidy entries -> KeyedTidy result

theorem keeps_assign? (path : List String) {v : Json} (distinct : v.Distinct) :
    Keeps (assign? path v) where
  top _ _ done keyed := keyedTop_assign? done keyed
  tidy _ _ done keyed := keyedTidy_assign? distinct done keyed

theorem keeps_alter? (key : String) {f : Option Node -> Option Node}
    (kept : forall old node, (forall node, old = some node -> node.Tidy) -> f old = some node ->
      node.Tidy) : Keeps (alter? key f) where
  top _ _ done keyed := keyed.alter? done fun _ _ _ _ => trivial
  tidy _ _ done keyed := keyed.alter? done kept

theorem Keeps.underHeader? {f : Entries -> Option Entries} (keeps : Keeps f)
    (path : List String) : Keeps (underHeader? path f) := by
  induction path with
  | nil => exact keeps
  | cons part parts ih =>
      apply keeps_alter? part
      intro old node before new
      match old with
      | none =>
          obtain ⟨inner, made, same⟩ := Option.bind_eq_some_iff.1 new
          cases same
          exact ih.top _ _ made keyed_nil
      | some (.table origin inner) =>
          obtain ⟨inner', made, same⟩ := Option.bind_eq_some_iff.1 new
          cases same
          exact ih.top _ _ made (before _ rfl)
      | some (.tables items) =>
          obtain ⟨items', made, same⟩ := Option.bind_eq_some_iff.1 new
          cases same
          trivial
      | some (.value _) => cases new

theorem keyedTidy_openTable? {path : List String} (done : openTable? path entries = some result)
    (keyed : KeyedTidy entries) : KeyedTidy result := by
  unfold openTable? at done
  split at done
  · cases done
  · rename_i name _
    refine (Keeps.underHeader? (keeps_alter? name ?_) path.dropLast).tidy _ _ done keyed
    intro old node before new
    split at new
    · cases new
      exact keyed_nil
    · rename_i inner
      cases new
      exact before (.table .implied inner) rfl
    · cases new

theorem keyedTidy_openItem? {path : List String} (done : openItem? path entries = some result)
    (keyed : KeyedTidy entries) : KeyedTidy result := by
  unfold openItem? at done
  split at done
  · cases done
  · rename_i name _
    refine (Keeps.underHeader? (keeps_alter? name ?_) path.dropLast).tidy _ _ done keyed
    intro old node before new
    split at new <;> cases new <;> trivial

end

/-! ## Values -/

theorem map_fst_entriesToJson (entries : Entries) :
    (entriesToJson entries).map Prod.fst = entries.map Prod.fst := by
  induction entries with
  | nil => rfl
  | cons entry rest ih =>
      obtain ⟨key, node⟩ := entry
      rw [entriesToJson, List.map_cons, ih]
      rfl

theorem mem_entriesToJson {entries : Entries} {key : String} {j : Json}
    (mem : (key, j) ∈ entriesToJson entries) :
    exists node, (key, node) ∈ entries ∧ j = node.toJson := by
  induction entries with
  | nil => cases mem
  | cons entry rest ih =>
      obtain ⟨k, node⟩ := entry
      rw [entriesToJson] at mem
      rcases List.mem_cons.1 mem with same | mem
      · cases same
        exact ⟨node, List.mem_cons_self, rfl⟩
      · obtain ⟨node, found, same⟩ := ih mem
        exact ⟨node, List.mem_cons_of_mem _ found, same⟩

theorem Node.Tidy.distinct {node : Node} (tidy : node.Tidy) : node.toJson.Distinct := by
  cases node with
  | value v =>
      rw [Node.toJson]
      exact tidy
  | table origin entries =>
      rw [Node.toJson]
      show ((entriesToJson entries).map Prod.fst).Nodup
      rw [map_fst_entriesToJson]
      exact Keyed.distinct tidy
  | tables items =>
      rw [Node.toJson]
      exact List.nodup_nil

section

variable {cs rest : List Char} {fuel : Nat}

theorem keyedTop_readMembers? {entries result : Entries}
    (done : readMembers? fuel entries cs = some (result, rest)) (keyed : KeyedTop entries) :
    KeyedTop result := by
  induction fuel generalizing entries cs with
  | zero =>
      rw [readMembers?] at done
      cases done
  | succ fuel ih =>
      rw [readMembers?] at done
      obtain ⟨⟨key, behind⟩, -, done⟩ := Option.bind_eq_some_iff.1 done
      obtain ⟨behind', -, done⟩ := Option.bind_eq_some_iff.1 done
      obtain ⟨⟨v, behind''⟩, -, done⟩ := Option.bind_eq_some_iff.1 done
      obtain ⟨entries', assigned, done⟩ := Option.bind_eq_some_iff.1 done
      have keyed' := keyedTop_assign? assigned keyed
      split at done
      · cases done
        exact keyed'
      · exact ih done keyed'
      · cases done

theorem distinct_of_wordValue? {word : List Char} {v : Json} (read : wordValue? word = some v) :
    v.Distinct := by
  unfold wordValue? at read
  split at read
  · cases read
    exact List.nodup_nil
  · split at read
    · cases read
      exact List.nodup_nil
    · split at read
      · cases read
        exact List.nodup_nil
      · split at read
        · cases read
          exact List.nodup_nil
        · obtain ⟨moment, -, rfl⟩ := Option.map_eq_some_iff.1 read
          exact List.nodup_nil

theorem distinct_of_readValue? {v : Json} (read : readValue? fuel cs = some (v, rest)) :
    v.Distinct := by
  cases fuel with
  | zero =>
      unfold readValue? at read
      cases read
  | succ fuel =>
      unfold readValue? at read
      split at read
      · obtain ⟨_, -, same⟩ := Option.map_eq_some_iff.1 read
        cases same
        exact List.nodup_nil
      · obtain ⟨_, -, same⟩ := Option.map_eq_some_iff.1 read
        cases same
        exact List.nodup_nil
      · obtain ⟨_, -, same⟩ := Option.bind_eq_some_iff.1 read
        cases same
        exact List.nodup_nil
      · split at read
        · cases read
          exact List.nodup_nil
        · obtain ⟨⟨entries, behind⟩, members, same⟩ := Option.bind_eq_some_iff.1 read
          cases same
          show ((entriesToJson entries).map Prod.fst).Nodup
          rw [map_fst_entriesToJson]
          exact (keyedTop_readMembers? members keyed_nil).distinct
      · dsimp only at read
        obtain ⟨_, word, same⟩ := Option.map_eq_some_iff.1 read
        cases same
        exact distinct_of_wordValue? word

/-! ## Documents -/

theorem keyedTidy_readStatement? {p p' : Progress} (done : readStatement? p cs = some (p', rest))
    (keyed : KeyedTidy p.root) : KeyedTidy p'.root := by
  unfold readStatement? at done
  split at done
  · obtain ⟨⟨path, behind⟩, -, done⟩ := Option.bind_eq_some_iff.1 done
    obtain ⟨behind', -, done⟩ := Option.bind_eq_some_iff.1 done
    obtain ⟨behind'', -, done⟩ := Option.bind_eq_some_iff.1 done
    obtain ⟨root, opened, same⟩ := Option.bind_eq_some_iff.1 done
    cases same
    exact keyedTidy_openItem? opened keyed
  · obtain ⟨⟨path, behind⟩, -, done⟩ := Option.bind_eq_some_iff.1 done
    obtain ⟨behind', -, done⟩ := Option.bind_eq_some_iff.1 done
    obtain ⟨root, opened, same⟩ := Option.bind_eq_some_iff.1 done
    cases same
    exact keyedTidy_openTable? opened keyed
  · obtain ⟨⟨key, behind⟩, -, done⟩ := Option.bind_eq_some_iff.1 done
    obtain ⟨behind', -, done⟩ := Option.bind_eq_some_iff.1 done
    obtain ⟨⟨v, behind''⟩, read, done⟩ := Option.bind_eq_some_iff.1 done
    obtain ⟨root, assigned, same⟩ := Option.bind_eq_some_iff.1 done
    cases same
    have keeps := (keeps_assign? key (distinct_of_readValue? read)).underHeader? p.header
    exact keeps.tidy _ _ assigned keyed

theorem keyedTidy_readStatements? {p p' : Progress}
    (done : readStatements? fuel p cs = some p') (keyed : KeyedTidy p.root) :
    KeyedTidy p'.root := by
  induction fuel generalizing p cs with
  | zero =>
      rw [readStatements?] at done
      cases done
  | succ fuel ih =>
      rw [readStatements?] at done
      obtain ⟨behind, -, done⟩ := Option.bind_eq_some_iff.1 done
      split at done
      · cases done
        exact keyed
      · obtain ⟨⟨next, behind'⟩, stated, done⟩ := Option.bind_eq_some_iff.1 done
        obtain ⟨behind'', -, done⟩ := Option.bind_eq_some_iff.1 done
        exact ih done (keyedTidy_readStatement? stated keyed)

theorem distinct_of_read? {layer : List (String × Json)} (read : read? cs = some layer) :
    (layer.map Prod.fst).Nodup ∧ forall name value, (name, value) ∈ layer -> value.Distinct := by
  obtain ⟨unified, -, read⟩ := Option.bind_eq_some_iff.1 read
  obtain ⟨p, done, same⟩ := Option.bind_eq_some_iff.1 read
  cases same
  have keyed := keyedTidy_readStatements? done keyed_nil
  constructor
  · rw [map_fst_entriesToJson]
    exact keyed.distinct
  · intro name value mem
    obtain ⟨node, found, rfl⟩ := mem_entriesToJson mem
    exact (keyed.each name node found).distinct

end

end Toml
end RobotConsole
