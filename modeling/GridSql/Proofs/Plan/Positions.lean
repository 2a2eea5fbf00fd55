import GridSql.Proofs.Plan.PivotNames

/-!
# Choices by position

The choices of one item from each list are numbered: the digits of a choice's number, with
the lengths of the lists as their bases, are the positions of its items. So each row of
positions is there once, and the later ones come behind the earlier ones in the order of
their first difference. The columns of a pivot context are numbered in the same way, by
combination and value column.
-/

namespace GridSql

/-! ## Numbers with a base for each digit -/

/-- The digits of a number, each with its own base; the first digit counts most. -/
def digitsIn : List Nat → Nat → List Nat
  | [], _ => []
  | _ :: bases, n => n / bases.prod :: digitsIn bases (n % bases.prod)

def numberIn : List Nat → List Nat → Nat
  | _ :: bases, d :: ds => d * bases.prod + numberIn bases ds
  | _, _ => 0

theorem digitsIn_cons (base : Nat) (bases : List Nat) (n : Nat) :
    digitsIn (base :: bases) n = n / bases.prod :: digitsIn bases (n % bases.prod) :=
  rfl

theorem numberIn_cons (base d : Nat) (bases ds : List Nat) :
    numberIn (base :: bases) (d :: ds) = d * bases.prod + numberIn bases ds :=
  rfl

theorem numberIn_digitsIn {bases : List Nat} {n : Nat} (h : n < bases.prod) :
    numberIn bases (digitsIn bases n) = n := by
  induction bases generalizing n with
  | nil =>
      rw [List.prod_nil] at h
      exact (Nat.lt_one_iff.1 h).symm
  | cons base bases ih =>
      rw [List.prod_cons] at h
      have positive : 0 < bases.prod := Nat.pos_of_lt_mul_left h
      rw [digitsIn_cons, numberIn_cons, ih (Nat.mod_lt n positive)]
      exact Nat.div_add_mod' n bases.prod

theorem numberIn_lt {bases ds : List Nat} (h : List.Forall₂ (· < ·) ds bases) :
    numberIn bases ds < bases.prod := by
  induction h with
  | nil => exact Nat.one_pos
  | @cons d base ds bases first _ ih =>
      rw [numberIn_cons, List.prod_cons]
      calc
        d * bases.prod + numberIn bases ds < d * bases.prod + bases.prod :=
          Nat.add_lt_add_left ih _
        _ = (d + 1) * bases.prod := (Nat.succ_mul d bases.prod).symm
        _ ≤ base * bases.prod := Nat.mul_le_mul_right _ first

theorem digitsIn_numberIn {bases ds : List Nat} (h : List.Forall₂ (· < ·) ds bases) :
    digitsIn bases (numberIn bases ds) = ds := by
  induction h with
  | nil => rfl
  | @cons d base ds bases _ others ih =>
      have small := numberIn_lt others
      have positive : 0 < bases.prod := by omega
      rw [numberIn_cons, digitsIn_cons, Nat.add_comm, Nat.add_mul_div_right _ _ positive,
        Nat.div_eq_of_lt small, Nat.zero_add, Nat.add_mul_mod_self_right,
        Nat.mod_eq_of_lt small, ih]

/-- A larger number has the larger digit at the first difference. -/
theorem digitsIn_lt_digitsIn {bases : List Nat} {m n : Nat} (less : m < n)
    (h : n < bases.prod) :
    digitsIn bases m < digitsIn bases n := by
  induction bases generalizing m n with
  | nil =>
      rw [List.prod_nil] at h
      omega
  | cons base bases ih =>
      rw [List.prod_cons] at h
      have positive : 0 < bases.prod := Nat.pos_of_lt_mul_left h
      rw [digitsIn_cons, digitsIn_cons, List.cons_lt_cons_iff]
      by_cases first : m / bases.prod < n / bases.prod
      · exact .inl first
      · have same : m / bases.prod = n / bases.prod :=
          Nat.le_antisymm (Nat.div_le_div_right less.le) (Nat.not_lt.1 first)
        refine .inr ⟨same, ih ?_ (Nat.mod_lt n positive)⟩
        have hm := Nat.div_add_mod' m bases.prod
        have hn := Nat.div_add_mod' n bases.prod
        rw [same] at hm
        omega

/-! ## The number of a choice -/

variable {α β : Type}

/-- An item of joined blocks of one length is found by its block and its place there. -/
theorem getElem?_flatten_of_length {blocks : List (List β)} {m i j : Nat}
    (length : ∀ block ∈ blocks, block.length = m) (hj : j < m) :
    blocks.flatten[i * m + j]? = blocks[i]?.bind (·[j]?) := by
  induction blocks generalizing i with
  | nil => simp
  | cons block blocks ih =>
      have first : block.length = m := length block List.mem_cons_self
      have others : ∀ b ∈ blocks, b.length = m :=
        fun b hb => length b (List.mem_cons_of_mem block hb)
      rw [List.flatten_cons]
      cases i with
      | zero =>
          rw [Nat.zero_mul, Nat.zero_add, List.getElem?_append_left (by omega)]
          rfl
      | succ i =>
          have behind : (i + 1) * m + j - block.length = i * m + j := by
            rw [Nat.succ_mul, first]
            omega
          have beyond : block.length ≤ (i + 1) * m + j := by
            rw [Nat.succ_mul, first]
            omega
          rw [List.getElem?_append_right beyond, behind, ih others, List.getElem?_cons_succ]

theorem foldl_choices (lists : List (List α)) (choices : List (List α)) :
    lists.foldl (fun acc items => acc.flatMap fun chosen => items.map fun a => chosen ++ [a])
        choices =
      choices.flatMap fun chosen => (cartesianProduct lists).map (chosen ++ ·) := by
  induction lists using List.reverseRecOn with
  | nil => simp [cartesianProduct_nil]
  | append_singleton lists items ih =>
      rw [List.foldl_append, ih, cartesianProduct_append_singleton]
      simp [List.flatMap_assoc, List.map_flatMap, List.flatMap_map, Function.comp_def]

/-- Choices begin with each item of the first list in turn. -/
theorem cartesianProduct_cons (items : List α) (lists : List (List α)) :
    cartesianProduct (items :: lists) =
      (items.map fun a => (cartesianProduct lists).map (a :: ·)).flatten := by
  have started : cartesianProduct (items :: lists) =
      (items.map fun a => [a]).flatMap fun chosen =>
        (cartesianProduct lists).map (chosen ++ ·) := by
    rw [← foldl_choices]
    simp [cartesianProduct]
  rw [started, List.flatMap_map, List.flatMap_def]
  rfl

/-- Whether a choice has the items at some positions of the lists. -/
def ChosenAt (lists : List (List α)) (positions : List Nat) (choice : List α) : Prop :=
  choice.map some = List.zipWith (fun items i => items[i]?) lists positions

/-- A choice has the items at the positions that the digits of its number are. -/
theorem exists_chosenAt {lists : List (List α)} {n : Nat} (h : n < (lists.map List.length).prod) :
    ∃ choice, (cartesianProduct lists)[n]? = some choice ∧
      ChosenAt lists (digitsIn (lists.map List.length) n) choice := by
  induction lists generalizing n with
  | nil =>
      rw [List.map_nil, List.prod_nil] at h
      exact ⟨[], by rw [Nat.lt_one_iff.1 h]; rfl, rfl⟩
  | cons items lists ih =>
      rw [List.map_cons, List.prod_cons] at h
      generalize hm : (lists.map List.length).prod = m at h ih
      have positive : 0 < m := Nat.pos_of_lt_mul_left h
      have inFirst : n / m < items.length := (Nat.div_lt_iff_lt_mul positive).2 h
      obtain ⟨choice, found, chosen⟩ := ih (Nat.mod_lt n positive)
      have blocks : ∀ block ∈ items.map fun a => (cartesianProduct lists).map (a :: ·),
          block.length = m := by
        intro block hblock
        obtain ⟨a, -, rfl⟩ := List.mem_map.1 hblock
        rw [List.length_map, length_cartesianProduct, hm]
      refine ⟨items[n / m] :: choice, ?_, ?_⟩
      · have place := getElem?_flatten_of_length (i := n / m) blocks (Nat.mod_lt n positive)
        rw [Nat.div_add_mod'] at place
        rw [cartesianProduct_cons, place, List.getElem?_map, List.getElem?_eq_getElem inFirst]
        simp [found]
      · rw [ChosenAt, List.map_cons, List.map_cons, digitsIn_cons, hm, List.zipWith_cons_cons,
          ← chosen, List.getElem?_eq_getElem inFirst]

/--
Whether choices are all those of one item from each list, each once by its positions, in the
order of these.
-/
structure Enumerates (lists : List (List α)) (choices : List (List α)) : Prop where
  length : choices.length = (lists.map List.length).prod
  chosen : ∀ n < choices.length, ∃ choice, choices[n]? = some choice ∧
    ChosenAt lists (digitsIn (lists.map List.length) n) choice
  once : ∀ positions, List.Forall₂ (fun i items => i < items.length) positions lists →
    ∃! n, n < choices.length ∧ digitsIn (lists.map List.length) n = positions
  ordered : ∀ m n, m < n → n < choices.length →
    digitsIn (lists.map List.length) m < digitsIn (lists.map List.length) n

theorem enumerates_cartesianProduct (lists : List (List α)) :
    Enumerates lists (cartesianProduct lists) := by
  have length := length_cartesianProduct lists
  refine ⟨length, fun n hn => exists_chosenAt (length ▸ hn), ?_, ?_⟩
  · intro positions inLists
    have small : List.Forall₂ (· < ·) positions (lists.map List.length) :=
      List.forall₂_map_right_iff.2 inLists
    refine ⟨numberIn (lists.map List.length) positions, ⟨?_, digitsIn_numberIn small⟩, ?_⟩
    · rw [length]
      exact numberIn_lt small
    · intro n number
      obtain ⟨hn, rfl⟩ := number
      exact (numberIn_digitsIn (length ▸ hn)).symm
  · intro m n less hn
    exact digitsIn_lt_digitsIn less (length ▸ hn)

/-! ## The number of a generated column -/

namespace PivotContext

variable {r : Request} {values : List (String × List Value)} {aggregates : AggregateRegistry}
  {separator : String} {limit : Option Nat} {p : PivotContext}

structure GeneratedFrom (aggregates : AggregateRegistry) (separator : String)
    (combination : List PivotPair) (c : ColumnRef) (column : PivotColumn) : Prop where
  name : column.name = columnName separator combination c.field
  expr : ∃ function, AggregateRegistry.functionName c = .ok function ∧
    aggregates.apply function (matching combination c.field) = .ok column.expr

theorem pairs_of_build (built : build r values aggregates separator limit = .ok p) :
    p.pairs = values.map fun column => column.2.map fun v => ⟨column.1, v⟩ := by
  obtain ⟨_, -, built⟩ := bind_ok_iff.1 built
  obtain ⟨columns, -, built⟩ := bind_ok_iff.1 built
  cases built
  rfl

theorem exists_columnBlocks (built : build r values aggregates separator limit = .ok p) :
    ∃ blocks, p.columns = blocks.flatten ∧ List.Forall₂ (fun combination block =>
      List.Forall₂ (GeneratedFrom aggregates separator combination) r.valueCols block)
        p.combinations blocks := by
  obtain ⟨-, -, blocks, columns, made⟩ := build_ok built
  refine ⟨blocks, columns, made.imp fun combination block hblock => ?_⟩
  exact (columnsOf_ok hblock).imp fun c column generated => ⟨generated.1, generated.2⟩

theorem length_block {combinations : List (List PivotPair)} {blocks : List (List PivotColumn)}
    (made : List.Forall₂ (fun combination block =>
      List.Forall₂ (GeneratedFrom aggregates separator combination) r.valueCols block)
        combinations blocks)
    {block : List PivotColumn} (h : block ∈ blocks) :
    block.length = r.valueCols.length := by
  obtain ⟨_, -, generated⟩ := exists_of_mem_right made h
  exact generated.length_eq.symm

theorem length_columns (built : build r values aggregates separator limit = .ok p) :
    p.columns.length = p.combinations.length * r.valueCols.length := by
  obtain ⟨blocks, columns, made⟩ := exists_columnBlocks built
  rw [columns, made.length_eq]
  have lengths : blocks.map List.length = List.replicate blocks.length r.valueCols.length :=
    List.map_eq_replicate_iff.2 fun block hblock => length_block made hblock
  rw [List.length_flatten, lengths, List.sum_replicate_nat]

theorem exists_generatedFrom (built : build r values aggregates separator limit = .ok p)
    {i j : Nat} {combination : List PivotPair} {c : ColumnRef}
    (hi : p.combinations[i]? = some combination) (hj : r.valueCols[j]? = some c) :
    ∃ column, p.columns[i * r.valueCols.length + j]? = some column ∧
      GeneratedFrom aggregates separator combination c column := by
  obtain ⟨blocks, columns, made⟩ := exists_columnBlocks built
  obtain ⟨block, hblock, generated⟩ := exists_getElem?_of_forall₂ made hi
  obtain ⟨column, hcolumn, from_⟩ := exists_getElem?_of_forall₂ generated hj
  have inside : j < r.valueCols.length := (List.getElem?_eq_some_iff.1 hj).1
  refine ⟨column, ?_, from_⟩
  rw [columns, getElem?_flatten_of_length (fun _ => length_block made) inside, hblock]
  exact hcolumn

/--
Choices are numbered by the positions of their items. So are the combinations of a context,
and with `m` value columns, column `i * m + j` is generated from combination `i` and value
column `j`.
-/
theorem build_enumerates :
    (∀ {α : Type} (lists : List (List α)), Enumerates lists (cartesianProduct lists)) ∧
    ∀ {r : Request} {values : List (String × List Value)} {aggregates : AggregateRegistry}
        {separator : String} {limit : Option Nat} {p : PivotContext},
      build r values aggregates separator limit = .ok p →
        p.pairs = values.map (fun column => column.2.map fun v => ⟨column.1, v⟩) ∧
        Enumerates p.pairs p.combinations ∧
        p.columns.length = p.combinations.length * r.valueCols.length ∧
        ∀ i j combination c, p.combinations[i]? = some combination →
          r.valueCols[j]? = some c →
            ∃ column, p.columns[i * r.valueCols.length + j]? = some column ∧
              GeneratedFrom aggregates separator combination c column := by
  refine ⟨enumerates_cartesianProduct, ?_⟩
  intro r values aggregates separator limit p built
  have pairs := pairs_of_build built
  have combinations : p.combinations = cartesianProduct p.pairs := by
    rw [pairs]
    exact (build_ok built).2.1
  refine ⟨pairs, ?_, length_columns built, ?_⟩
  · rw [combinations]
    exact enumerates_cartesianProduct p.pairs
  · intro i j combination c hi hj
    exact exists_generatedFrom built hi hj

def workByYear : Request where
  pivotMode := true
  pivotCols := [{ field := "year" }, { field := "kind" }]
  valueCols := [{ field := "wage", aggFunc := some "sum" },
    { field := "hours", aggFunc := some "max" }]

/-- With two value columns, column 5 is the second one of combination 2. -/
theorem build_enumerates_work :
    ∃ p, build workByYear [("year", [.int 2023, .int 2024]), ("kind", [.text "day", .null])]
        .builtin "_" none = .ok p ∧
      p.combinations[2]? = some [⟨"year", .int 2024⟩, ⟨"kind", .text "day"⟩] ∧
      ∃ column, p.columns[5]? = some column ∧ column.name = "2024_day_hours" := by
  obtain ⟨p, built, third⟩ : ∃ p, build workByYear
      [("year", [.int 2023, .int 2024]), ("kind", [.text "day", .null])] .builtin "_" none =
        .ok p ∧ p.combinations[2]? = some [⟨"year", .int 2024⟩, ⟨"kind", .text "day"⟩] :=
    ⟨_, rfl, rfl⟩
  obtain ⟨-, -, -, generated⟩ := build_enumerates.2 built
  obtain ⟨column, hcolumn, from_⟩ := generated 2 1 _ _ third rfl
  exact ⟨p, built, third, column, hcolumn, from_.name.trans (by decide +kernel)⟩

end PivotContext

end GridSql
