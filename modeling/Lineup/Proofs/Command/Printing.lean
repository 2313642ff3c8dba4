import Lineup.Proofs.Command.Effect
import Lineup.Proofs.Roster.Written

/-!
Rosters that are printed in JSON: one document, from which all of them can be told.
-/

namespace Lineup

open Browser Json Document

namespace Roster

/-- The roster that a row stands for: it has a name or none, and some additions have been made,
of which some may have been refused. -/
def ofRow (row : Option String × List Addition) : Roster := (fresh row.1).run row.2

theorem accounted_ofRow (row : Option String × List Addition) :
    ∃ acc, Accounted (ofRow row) acc := ⟨_, (accounted_fresh row.1).run row.2⟩

end Roster

namespace Command

open Writing Roster

theorem run_print_json (color : Bool) (rosters : List Roster) (written : String) :
    (print color true rosters : Writing Id Unit).run.run written =
      (.ok (), written ++ (document rosters ++ "\n")) := by
  rw [run_print, rosterPieces, if_pos rfl, String.join_cons, String.join_nil, String.append_empty]

theorem listed_values (rows : List (Option String × List Addition)) :
    List.Forall₂ (fun row v => (ofRow row).Listed v) rows ((rows.map ofRow).map Roster.value) := by
  rw [List.forall₂_map_right_iff, List.forall₂_map_right_iff, List.forall₂_same]
  intro row _
  obtain ⟨acc, hacc⟩ := accounted_ofRow row
  exact listed_value hacc

/-- **Printing in JSON.** One document and a new line are printed. What is read from them is a
list with an object for each roster, and rosters for which the same is printed are alike. -/
theorem print_json_lossless (color : Bool) (written : String)
    (rows : List (Option String × List Addition)) : ∃ text values,
      (print color true (rows.map ofRow) : Writing Id Unit).run.run written =
        (.ok (), written ++ (text ++ "\n")) ∧
      Spells (.list values) text.toList ∧ ReadsAs (text ++ "\n") (.list values) ∧
      List.Forall₂ (fun row v => (ofRow row).Listed v) rows values ∧
      ∀ rows', (print color true (rows'.map ofRow) : Writing Id Unit).run.run written =
          (print color true (rows.map ofRow) : Writing Id Unit).run.run written →
        List.Forall₂ (fun row row' => (ofRow row).Alike (ofRow row')) rows rows' := by
  have hreads : ∀ rows : List (Option String × List Addition),
      ReadsAs (document (rows.map ofRow) ++ "\n") (.list ((rows.map ofRow).map Roster.value)) :=
    fun rows => readsAs_pretty ((depth_values _).trans (by decide)) 0
  refine ⟨document (rows.map ofRow), _, run_print_json color _ written,
    Value.spells_pretty 0 _, hreads rows, listed_values rows, fun rows' h => ?_⟩
  rw [run_print_json, run_print_json] at h
  have htext : document (rows'.map ofRow) ++ "\n" = document (rows.map ofRow) ++ "\n" :=
    (String.append_right_inj _).mp (Prod.ext_iff.mp h).2
  -- The same text is read as the same values, and each value stands for one roster of each list.
  have hreads' := hreads rows'
  rw [htext] at hreads'
  have hlisted := listed_values rows'
  rw [Value.list.inj (hreads'.unique (hreads rows))] at hlisted
  exact forall₂_comp (fun hv hv' => hv.alike hv') (listed_values rows) hlisted.flip

end Command
end Lineup
