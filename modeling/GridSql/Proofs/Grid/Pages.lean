import GridSql.Proofs.Grid.Windows

/-!
# Windows that follow each other

A grid loads the rows of a level block by block. What two neighbouring windows show is what
one window over both of them shows, so no row is lost or shown twice between two blocks,
whatever the level is grouped, sorted and filtered by.
-/

namespace GridSql

namespace Grid

variable {g : Grid} {r : Request} {q : Query} {pivot : PivotContext} {whole : RowBlock}
  {a b c : Nat}

/--
Whether a block holds those rows of a level that stand from `start` up to `stop`. The number
of all rows is left open exactly by a block that is full.
-/
structure ShowsPage (g : Grid) (r : Request) (level : List RowObject) (start stop : Nat)
    (block : RowBlock) : Prop where
  answered : g.rows (r.page start stop) = .ok block
  rows : block.rows = (level.drop start).take (stop - start)
  open_iff : block.rowCount = none ↔ block.rows.length = stop - start

theorem rows_page_error {e : QueryError} (accepted : g.query r = .ok (q, pivot)) (ordered : a ≤ b)
    (failed : g.rows r.whole = .error e) :
    g.rows (r.page a b) = .error e := by
  obtain ⟨p, hp, -⟩ := bind_ok_iff.1 accepted
  rw [rows_eq_blockOf (plan_page ordered hp), show (r.page a b).whole = r.whole from rfl, failed]
  rfl

theorem exists_showsPage (accepted : g.query r = .ok (q, pivot)) (proper : a < b)
    (shown : g.rows r.whole = .ok whole) :
    ∃ block, g.ShowsPage r whole.rows a b block := by
  obtain ⟨p, hp, -⟩ := bind_ok_iff.1 accepted
  have size : (r.page a b).pageSize ≠ 0 := Nat.sub_ne_zero_of_lt proper
  have rows : (r.page a b).slice whole.rows = (whole.rows.drop a).take (b - a) := by
    rw [Request.slice, if_neg size]
    rfl
  have few : ((r.page a b).slice whole.rows).length ≤ b - a := by
    rw [rows]
    exact List.length_take_le _ _
  refine ⟨blockOf (r.page a b) whole, ?_, rows, ?_⟩
  · rw [rows_eq_blockOf (plan_page proper.le hp), show (r.page a b).whole = r.whole from rfl, shown]
    rfl
  · dsimp only [blockOf]
    unfold rowCount?
    split
    · next short =>
        have short := short.resolve_left size
        have short : ((r.page a b).slice whole.rows).length < b - a := short
        simp [short.ne]
    · next full =>
        have full : ¬ ((r.page a b).slice whole.rows).length < b - a := (not_or.1 full).2
        simp only [true_iff]
        omega

theorem take_drop_append {α : Type} (rows : List α) (ab : a ≤ b) (bc : b ≤ c) :
    (rows.drop a).take (c - a) = (rows.drop a).take (b - a) ++ (rows.drop b).take (c - b) := by
  rw [show c - a = (b - a) + (c - b) by omega, List.take_add, List.drop_drop,
    Nat.add_sub_cancel' ab]

theorem ShowsPage.append {left right both : RowBlock} {level : List RowObject}
    (hleft : g.ShowsPage r level a b left) (hright : g.ShowsPage r level b c right)
    (hboth : g.ShowsPage r level a c both) (first : a ≤ b) (second : b ≤ c) :
    both.rows = left.rows ++ right.rows := by
  rw [hboth.rows, hleft.rows, hright.rows, take_drop_append level first second]

/--
A request that is accepted in one window is accepted in all. Its windows fail with the level,
or two that follow each other show one after the other what the window over both shows, each
of them its part of what is shown without a window.
-/
theorem rows_pages (accepted : g.query r = .ok (q, pivot)) (first : a < b) (second : b < c) :
    (∀ start stop, start ≤ stop → ∃ q', g.query (r.page start stop) = .ok (q', pivot)) ∧
    (∀ e, g.rows r.whole = .error e → g.rows (r.page a b) = .error e ∧
      g.rows (r.page b c) = .error e ∧ g.rows (r.page a c) = .error e) ∧
    ∀ whole, g.rows r.whole = .ok whole → ∃ left right both,
      g.ShowsPage r whole.rows a b left ∧ g.ShowsPage r whole.rows b c right ∧
        g.ShowsPage r whole.rows a c both ∧ both.rows = left.rows ++ right.rows := by
  refine ⟨fun start stop ordered => ?_, fun e failed => ?_, fun whole shown => ?_⟩
  · obtain ⟨p, hp, hquery⟩ := bind_ok_iff.1 accepted
    cases hquery
    exact ⟨_, bind_ok_iff.2 ⟨p, plan_page ordered hp, rfl⟩⟩
  · exact ⟨rows_page_error accepted first.le failed, rows_page_error accepted second.le failed,
      rows_page_error accepted (first.trans second).le failed⟩
  · obtain ⟨left, hleft⟩ := exists_showsPage accepted first shown
    obtain ⟨right, hright⟩ := exists_showsPage accepted second shown
    obtain ⟨both, hboth⟩ := exists_showsPage accepted (first.trans second) shown
    exact ⟨left, right, both, hleft, hright, hboth, hleft.append hright hboth first.le second.le⟩

/-- The second of two blocks of guests is not full. -/
theorem rows_pages_guests :
    ∃ q pivot whole left right both, guests.query (groupedBy "place" []) = .ok (q, pivot) ∧
      guests.rows (groupedBy "place" []).whole = .ok whole ∧
      guests.ShowsPage (groupedBy "place" []) whole.rows 0 1 left ∧
      guests.ShowsPage (groupedBy "place" []) whole.rows 1 4 right ∧
      guests.ShowsPage (groupedBy "place" []) whole.rows 0 4 both ∧
      both.rows = left.rows ++ right.rows := by
  obtain ⟨p, hp, -⟩ := plan_guests
  obtain ⟨whole, shown, -⟩ := rows_guests
  have accepted : guests.query (groupedBy "place" []) =
      .ok (guests.assemble (groupedBy "place" []) p, p.pivot) := bind_ok_iff.2 ⟨p, hp, rfl⟩
  obtain ⟨-, -, pages⟩ := rows_pages accepted (a := 0) (b := 1) (c := 4) (by decide) (by decide)
  obtain ⟨left, right, both, hleft, hright, hboth, tiled⟩ := pages whole shown
  exact ⟨_, _, whole, left, right, both, accepted, shown, hleft, hright, hboth, tiled⟩

end Grid

end GridSql
