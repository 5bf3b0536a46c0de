import RobotConsole.Files
import RobotConsole.Proofs.Dict.Lookup
import RobotConsole.Proofs.Text.Utf8

/-!
# Written files

What was written to a file is read back from it: writing takes no directory away, so the path
still leads to the same place.
-/

namespace RobotConsole
namespace FileTree

variable {t : FileTree} {place target : FilePlace}

theorem node?_put_of_ne (node : FileNode) (other : place ≠ target) :
    (t.put target node).node? place = t.node? place := by
  unfold node? put
  dsimp only
  rw [List.lookup_cons, beq_false_of_ne other, lookup_filter_ne t.nodes target place, if_neg other]

theorem node?_put_self (node : FileNode) (inside : target ≠ []) :
    (t.put target node).node? target = some node := by
  unfold node? put
  rw [if_neg inside, List.lookup_cons_self]

theorem locate_eq_ok_iff {path name : String} :
    t.locate path = .ok (place, name) ↔ checkPath path = .ok () ∧
      (steps path).dropLast.foldlM t.enter [] = .ok place ∧
        (steps path).getLast?.getD "" = name := by
  unfold locate
  cases checkPath path with
  | error e => simp [bind, Except.bind]
  | ok =>
      cases entered : (steps path).dropLast.foldlM t.enter [] with
      | error e => simp [bind, Except.bind, entered]
      | ok inside => simp [bind, Except.bind, entered]

section

variable {bytes : List UInt8} (free : t.node? target ≠ some .directory)

include free

theorem enter_put {step : String} {next : FilePlace} (entered : t.enter place step = .ok next) :
    (t.put target (.file bytes)).enter place step = .ok next := by
  unfold enter at entered ⊢
  split
  · rename_i self
    rw [if_pos self] at entered
    exact entered
  · rename_i notSelf
    rw [if_neg notSelf] at entered
    split
    · rename_i up
      rw [if_pos up] at entered
      exact entered
    · rename_i notUp
      rw [if_neg notUp] at entered
      split
      · rename_i long
        rw [if_pos long] at entered
        exact entered
      · rename_i short
        rw [if_neg short] at entered
        have other : place ++ [step] ≠ target := by
          intro same
          split at entered
          · cases entered
          · cases entered
          · rename_i directory
            exact free (same ▸ directory)
        rw [node?_put_of_ne _ other]
        exact entered

theorem foldlM_enter_put {steps : List String} {place next : FilePlace}
    (entered : steps.foldlM t.enter place = .ok next) :
    steps.foldlM (t.put target (.file bytes)).enter place = .ok next := by
  induction steps generalizing place with
  | nil => exact entered
  | cons step steps ih =>
      rw [List.foldlM_cons] at entered ⊢
      cases first : t.enter place step with
      | error e =>
          rw [first] at entered
          cases entered
      | ok inside =>
          rw [first] at entered
          rw [enter_put free first]
          exact ih entered

theorem locate_put {path name : String} (located : t.locate path = .ok (place, name)) :
    (t.put target (.file bytes)).locate path = .ok (place, name) := by
  obtain ⟨checked, entered, last⟩ := locate_eq_ok_iff.1 located
  exact locate_eq_ok_iff.2 ⟨checked, foldlM_enter_put free entered, last⟩

end

theorem exists_of_writeBytes {t' : FileTree} {path : String} {bytes : List UInt8}
    (written : t.writeBytes path bytes = .ok t') :
    exists place name, t.locate path = .ok (place, name) ∧ ¬ isSelf name ∧
      ¬ nameLimit < name.utf8ByteSize ∧ t.node? (place ++ [name]) ≠ some .directory ∧
      t' = t.put (place ++ [name]) (.file bytes) := by
  unfold writeBytes at written
  cases checked : checkPath path with
  | error e =>
      rw [checked] at written
      cases written
  | ok =>
      rw [checked] at written
      dsimp only [bind, Except.bind] at written
      split at written
      · split at written <;> cases written
      · split at written
        · cases written
        · rename_i out located
          obtain ⟨place, name⟩ := out
          dsimp only at written
          split at written
          · cases written
          · rename_i notSelf
            split at written
            · cases written
            · rename_i short
              split at written
              · cases written
              · rename_i free
                cases written
                exact ⟨place, name, located, notSelf, short, free, rfl⟩

theorem readBytes_of_writeBytes {t' : FileTree} {path : String} {bytes : List UInt8}
    (written : t.writeBytes path bytes = .ok t') : t'.readBytes path = .ok bytes := by
  obtain ⟨place, name, located, notSelf, short, free, rfl⟩ := exists_of_writeBytes written
  have inside : place ++ [name] ≠ [] := List.concat_ne_nil name place
  unfold readBytes
  rw [locate_put free located]
  dsimp only [bind, Except.bind]
  rw [if_neg notSelf, if_neg short, node?_put_self _ inside]

theorem readText_of_writeText {t' : FileTree} {path content : String}
    (written : t.writeText path content = .ok t') : t'.readText path = .ok content := by
  unfold readText
  rw [readBytes_of_writeBytes written]
  dsimp only [bind, Except.bind]
  rw [Text.decodeUtf8_encodeUtf8]
  dsimp only
  rw [String.ofList_toList]

end FileTree
end RobotConsole
