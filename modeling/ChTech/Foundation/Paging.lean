import ChTech.Foundation.Program
import ChTech.Foundation.Query
import Mathlib.Data.List.Perm.Basic

/-!
# Reading page after page

A client asks for the pages of a sorted result, one query each, until one is empty.  The
engine orders tied rows anew for every query.  The pages hold every row once, whatever the
engine does, exactly when no page ends between two tied rows.
-/

namespace ChTech.Foundation

universe u v w

namespace Query

variable {ρ : Type u} {κ : Type v} [LinearOrder κ]

/-- No page of the sorted rows ends between two rows with the same key. -/
def Uncut (key : ρ → κ) (limit : Nat) (rows : List ρ) : Prop :=
  ∀ page last next, (orderBy key rows)[page * limit + limit - 1]? = some last →
    (orderBy key rows)[page * limit + limit]? = some next → key last ≠ key next

/-- A key that no two rows share is never cut. -/
theorem Uncut.of_nodup {key : ρ → κ} {limit : Nat} {rows : List ρ} (positive : 1 ≤ limit)
    (distinct : (rows.map key).Nodup) : Uncut key limit rows := by
  intro page last next before after tied
  have sorted : ((orderBy key rows).map key).Nodup :=
    ((List.perm_insertionSort _ rows).map key).nodup_iff.mpr distinct
  rcases List.getElem?_eq_some_iff.mp before with ⟨bound, rfl⟩
  rcases List.getElem?_eq_some_iff.mp after with ⟨bound', rfl⟩
  apply List.pairwise_iff_getElem.mp sorted (page * limit + limit - 1) (page * limit + limit)
    (by rw [List.length_map]; exact bound) (by rw [List.length_map]; exact bound') (by omega)
  rw [List.getElem_map, List.getElem_map]
  exact tied

omit [LinearOrder κ] in
/-- The two neighbours at a position. -/
theorem exists_split {rows : List ρ} {position : Nat} {last next : ρ}
    (before : rows[position]? = some last) (after : rows[position + 1]? = some next) :
    ∃ front rest, rows = front ++ last :: next :: rest ∧ front.length = position := by
  rcases List.getElem?_eq_some_iff.mp before with ⟨lastBound, rfl⟩
  rcases List.getElem?_eq_some_iff.mp after with ⟨nextBound, rfl⟩
  refine ⟨rows.take position, rows.drop (position + 1 + 1), ?_, ?_⟩
  · rw [← List.drop_eq_getElem_cons nextBound, ← List.drop_eq_getElem_cons lastBound,
      List.take_append_drop]
  · rw [List.length_take]
    omega

/-- Up to a position where the key grows, a sorted list holds the rows with a small key. -/
theorem take_eq_filter {key : ρ → κ} {sorted : List ρ} {position : Nat} {last next : ρ}
    (ordered : sorted.Pairwise fun first second => key first ≤ key second)
    (before : sorted[position]? = some last) (after : sorted[position + 1]? = some next)
    (grows : key last ≠ key next) :
    sorted.take (position + 1) = sorted.filter fun row => decide (key row ≤ key last) := by
  rcases exists_split before after with ⟨front, rest, rfl, length⟩
  have ordered := List.pairwise_append.mp ordered
  rcases ordered with ⟨_, tail, across⟩
  rcases List.pairwise_cons.mp tail with ⟨fromLast, tail⟩
  have less : key last < key next :=
    lt_of_le_of_ne (fromLast next List.mem_cons_self) grows
  have kept : (front.filter fun row => decide (key row ≤ key last)) = front := by
    apply List.filter_eq_self.mpr
    intro row member
    exact decide_eq_true (across row member last List.mem_cons_self)
  have dropped : ((next :: rest).filter fun row => decide (key row ≤ key last)) = [] := by
    apply List.filter_eq_nil_iff.mpr
    intro row member
    rw [decide_eq_true_eq, not_le]
    rcases List.mem_cons.mp member with rfl | later
    · exact less
    · exact lt_of_lt_of_le less ((List.pairwise_cons.mp tail).1 row later)
  have own : ((last :: next :: rest).filter fun row => decide (key row ≤ key last)) = [last] := by
    rw [List.filter_cons, if_pos (decide_eq_true (le_refl _)), dropped]
  rw [List.filter_append, kept, own, ← length, List.take_length_add_append]
  rfl

/-- Sorted alike, two lists of the same rows have the same keys at every position. -/
theorem keys_eq {key : ρ → κ} {sorted sorted' : List ρ} (same : sorted.Perm sorted')
    (ordered : sorted.Pairwise fun first second => key first ≤ key second)
    (ordered' : sorted'.Pairwise fun first second => key first ≤ key second) :
    sorted.map key = sorted'.map key := by
  apply List.Perm.eq_of_pairwise
  · intro first second _ _ below above
    exact le_antisymm below above
  · exact List.pairwise_map.mpr ordered
  · exact List.pairwise_map.mpr ordered'
  · exact same.map key

/-- They begin with the same rows, up to a position that cuts no tie. -/
theorem take_perm {key : ρ → κ} {sorted sorted' : List ρ} (same : sorted.Perm sorted')
    (ordered : sorted.Pairwise fun first second => key first ≤ key second)
    (ordered' : sorted'.Pairwise fun first second => key first ≤ key second) {position : Nat}
    (uncut : ∀ last next, sorted[position - 1]? = some last → sorted[position]? = some next →
      key last ≠ key next) : (sorted.take position).Perm (sorted'.take position) := by
  cases position with
  | zero => exact .refl _
  | succ position =>
      rcases Nat.lt_or_ge (position + 1) sorted.length with inside | past
      · have before := List.getElem?_eq_getElem (Nat.lt_of_succ_lt inside)
        have after := List.getElem?_eq_getElem inside
        have grows := uncut _ _ before after
        have keys := keys_eq same ordered ordered'
        have inside' : position + 1 < sorted'.length := same.length_eq ▸ inside
        have before' := List.getElem?_eq_getElem (Nat.lt_of_succ_lt inside')
        have after' := List.getElem?_eq_getElem inside'
        have lastKey : key sorted[position] = key sorted'[position] := by
          have entry := congrArg (fun entries => entries[position]?) keys
          simpa [before, before'] using entry
        have nextKey : key sorted[position + 1] = key sorted'[position + 1] := by
          have entry := congrArg (fun entries => entries[position + 1]?) keys
          simpa [after, after'] using entry
        rw [take_eq_filter ordered before after grows,
          take_eq_filter ordered' before' after' (by rw [← lastKey, ← nextKey]; exact grows),
          ← lastKey]
        exact same.filter _
      · rw [List.take_of_length_le past, List.take_of_length_le (same.length_eq ▸ past)]
        exact same

/-- The rows of a page, counted from 0. -/
def pageOf (limit : Nat) (rows : List ρ) (page : Nat) : List ρ :=
  (rows.drop (page * limit)).take limit

omit [LinearOrder κ] in
/-- The pages follow one another. -/
theorem flatMap_pageOf (limit : Nat) (rows : List ρ) (count : Nat) :
    (List.range count).flatMap (pageOf limit rows) = rows.take (count * limit) := by
  induction count with
  | zero => simp
  | succ count ih =>
      rw [List.range_succ, List.flatMap_append, ih, Nat.succ_mul, List.take_add]
      simp [pageOf]

omit [LinearOrder κ] in
theorem pageOf_eq_nil {limit page : Nat} {rows : List ρ} (positive : 1 ≤ limit) :
    pageOf limit rows page = [] ↔ rows.length ≤ page * limit := by
  simp only [pageOf, List.take_eq_nil_iff, List.drop_eq_nil_iff]
  omega

omit [LinearOrder κ] in
theorem mem_pageOf {limit page : Nat} {rows : List ρ} {row : ρ} (offset : Nat)
    (inside : offset < limit) (placed : rows[page * limit + offset]? = some row) :
    row ∈ pageOf limit rows page := by
  apply List.mem_of_getElem? (i := offset)
  rw [pageOf, List.getElem?_take_of_lt inside, List.getElem?_drop]
  exact placed

/-- The `n`th page holds the same rows in both lists when it cuts no tie at either end. -/
theorem pageOf_perm {key : ρ → κ} {sorted sorted' : List ρ} (same : sorted.Perm sorted')
    (ordered : sorted.Pairwise fun first second => key first ≤ key second)
    (ordered' : sorted'.Pairwise fun first second => key first ≤ key second) {limit : Nat}
    (uncut : ∀ page last next, sorted[page * limit + limit - 1]? = some last →
      sorted[page * limit + limit]? = some next → key last ≠ key next) (page : Nat) :
    (pageOf limit sorted page).Perm (pageOf limit sorted' page) := by
  have ends : ∀ page, (sorted.take (page * limit)).Perm (sorted'.take (page * limit)) := by
    intro page
    cases page with
    | zero => simp
    | succ page =>
        rw [Nat.succ_mul]
        exact take_perm same ordered ordered' (uncut page)
  have whole := ends (page + 1)
  rw [Nat.succ_mul, List.take_add, List.take_add] at whole
  exact (List.perm_append_left_iff _).mp
    ((List.Perm.append_right _ (ends page).symm).trans whole)

variable {β : Type w} [DecidableEq β]

/-- Any order of the rows that respects the key is the sort under some ranks. -/
theorem orderBy_idxOf {key : ρ → κ} {label : ρ → β} {rows sorted : List ρ}
    (same : sorted.Perm rows) (labels : (rows.map label).Nodup)
    (ordered : sorted.Pairwise fun first second => key first ≤ key second) :
    orderBy (ranked key fun row => (sorted.map label).idxOf (label row)) rows = sorted := by
  have distinct : (sorted.map label).Nodup := (same.map label).nodup_iff.mpr labels
  have increasing : sorted.Pairwise fun first second =>
      (sorted.map label).idxOf (label first) < (sorted.map label).idxOf (label second) := by
    rw [List.pairwise_iff_getElem]
    intro index later bound bound' less
    have own : ∀ position (inside : position < sorted.length),
        (sorted.map label).idxOf (label sorted[position]) = position := by
      intro position inside
      have place := distinct.idxOf_getElem position (by rw [List.length_map]; exact inside)
      rw [List.getElem_map] at place
      exact place
    rw [own index bound, own later bound']
    exact less
  symm
  apply eq_orderBy same
  · refine (ordered.and increasing).imp ?_
    rintro first second ⟨below, earlier⟩
    apply Prod.Lex.toLex_le_toLex.mpr
    rcases lt_or_eq_of_le below with less | tied
    · exact .inl less
    · exact .inr ⟨tied, le_of_lt earlier⟩
  · have ranks : (sorted.map fun row => (sorted.map label).idxOf (label row)).Nodup :=
      List.pairwise_map.mpr (increasing.imp fun less => Nat.ne_of_lt less)
    have pairs :
        (sorted.map (ranked key fun row => (sorted.map label).idxOf (label row))).Nodup := by
      apply List.Nodup.of_map fun pair => (ofLex pair).2
      rw [List.map_map]
      exact ranks
    exact (same.map _).nodup_iff.mp pairs

omit [DecidableEq β] in
theorem orderBy_ranked_pairwise (key : ρ → κ) (rank : ρ → Nat) (rows : List ρ) :
    (orderBy (ranked key rank) rows).Pairwise fun first second => key first ≤ key second := by
  refine (orderBy_pairwise (ranked key rank) rows).imp ?_
  intro first second below
  exact Prod.Lex.monotone_fst _ _ below

/-! ## Reading until a page is empty -/

/-- What a client collects that reads from a page on until one is empty. -/
inductive Reads {ε α : Type} (page : Nat → Except ε (List α)) : Nat → List α → Prop where
  | stop {number : Nat} : page number = .ok [] → Reads page number []
  | more {number : Nat} {rows rest : List α} :
      page number = .ok rows → rows ≠ [] → Reads page (number + 1) rest →
      Reads page number (rows ++ rest)

namespace Reads

variable {ε α : Type} {page : Nat → Except ε (List α)}

/-- What is collected depends on the answers only. -/
theorem unique {number : Nat} {first second : List α} (left : Reads page number first)
    (right : Reads page number second) : first = second := by
  induction left generalizing second with
  | stop empty =>
      cases right with
      | stop => rfl
      | more answered nonempty =>
          rw [empty] at answered
          exact (nonempty (Except.ok.inj answered).symm).elim
  | more answered nonempty _ ih =>
      cases right with
      | stop empty =>
          rw [empty] at answered
          exact (nonempty (Except.ok.inj answered).symm).elim
      | more answered' _ later =>
          rw [answered] at answered'
          cases answered'
          rw [ih later]

/-- Pages with rows come before an empty one. -/
theorem of_pages {rows : Nat → List α} {start count : Nat}
    (full : ∀ number, start ≤ number → number < start + count →
      page number = .ok (rows number) ∧ rows number ≠ [])
    (last : page (start + count) = .ok []) :
    Reads page start ((List.range' start count).flatMap rows) := by
  induction count generalizing start with
  | zero => exact .stop last
  | succ count ih =>
      rcases full start (Nat.le_refl _) (by omega) with ⟨first, nonempty⟩
      rw [List.range'_succ, List.flatMap_cons]
      refine .more first nonempty (ih ?_ ?_)
      · intro number below above
        exact full number (by omega) (by omega)
      · rwa [Nat.add_right_comm, Nat.add_assoc]

/-- What is collected has been answered, page by page; `shown` tells the answers apart. -/
theorem eq_of_pages {γ : Type} {shown : α → γ} {rows : Nat → List γ} {start count : Nat}
    {result : List α} (reads : Reads page start result)
    (answers : ∀ number answer, page number = .ok answer → answer.map shown = rows number)
    (full : ∀ number, start ≤ number → number < start + count → rows number ≠ [])
    (last : rows (start + count) = []) :
    result.map shown = (List.range' start count).flatMap rows ∧
      ∀ number, start ≤ number → number < start + count → (page number).isOk = true := by
  induction count generalizing start result with
  | zero =>
      refine ⟨?_, fun number below above => absurd above (by omega)⟩
      cases reads with
      | stop => rfl
      | more answered nonempty =>
          have empty := (answers _ _ answered).trans last
          exact (nonempty (List.map_eq_nil_iff.mp empty)).elim
  | succ count ih =>
      have first := full start (Nat.le_refl _) (by omega)
      cases reads with
      | stop answered => exact (first (answers _ _ answered).symm).elim
      | more answered nonempty later =>
          rcases ih later (fun number below above => full number (by omega) (by omega))
            (by rwa [Nat.add_right_comm, Nat.add_assoc]) with ⟨rest, returned⟩
          refine ⟨?_, ?_⟩
          · rw [List.range'_succ, List.flatMap_cons, List.map_append, rest, answers _ _ answered]
          · intro number below above
            rcases Nat.lt_or_eq_of_le below with after | rfl
            · exact returned number after (by omega)
            · rw [answered]
              rfl

end Reads

/-- The page of a query with the given number, counted from 0. -/
def pageAt (limit : Nat) (positive : 1 ≤ limit) (number : Nat) : Page :=
  ⟨number + 1, limit, Nat.succ_pos number, positive⟩

omit [LinearOrder κ] in
theorem paginate_pageAt {limit : Nat} {positive : 1 ≤ limit} {number : Nat} {rows : List ρ} :
    paginate (pageAt limit positive number) rows = pageOf limit rows number := rfl

theorem exists_count {limit : Nat} (positive : 1 ≤ limit) (length : Nat) :
    ∃ count, ∀ number, number < count ↔ number * limit < length := by
  refine ⟨(length + limit - 1) / limit, ?_⟩
  intro number
  rw [Nat.lt_iff_add_one_le, Nat.le_div_iff_mul_le positive, Nat.succ_mul]
  omega

section

variable {ρ ε α γ : Type} {key : ρ → κ} {label : ρ → β} {ident : ρ → γ} {shown : α → γ}
  {convert : (β → Nat) → ρ → Except ε α} {limit : Nat} {rows : List ρ}

/-- What the engine answers a query for a page with: it ranks the rows, and what it returns
is converted. -/
def answered (key : ρ → κ) (label : ρ → β) (convert : (β → Nat) → ρ → Except ε α) (limit : Nat)
    (rows : List ρ) (ties : Nat → β → Nat) (number : Nat) : Except ε (List α) :=
  (pageOf limit (orderBy (ranked key fun row => ties number (label row)) rows) number).mapM
    (convert (ties number))

/-- The rows of that page, as they are shown. -/
def shownPage (key : ρ → κ) (label : ρ → β) (ident : ρ → γ) (limit : Nat) (rows : List ρ)
    (ties : Nat → β → Nat) (number : Nat) : List γ :=
  (pageOf limit (orderBy (ranked key fun row => ties number (label row)) rows) number).map ident

omit [DecidableEq β] in
theorem shownPage_eq_nil {ties : Nat → β → Nat} {number : Nat} (positive : 1 ≤ limit) :
    shownPage key label ident limit rows ties number = [] ↔ rows.length ≤ number * limit := by
  rw [shownPage, List.map_eq_nil_iff, pageOf_eq_nil positive, orderBy, List.length_insertionSort]

omit [DecidableEq β] in
/-- All pages together have the rows, each of them once, if no page cuts a tie. -/
theorem shownPages_perm (uncut : Uncut key limit rows) (ties : Nat → β → Nat) {count : Nat}
    (all : rows.length ≤ count * limit) :
    ((List.range count).flatMap (shownPage key label ident limit rows ties)).Perm
      (rows.map ident) := by
  have each : ∀ number ∈ List.range count,
      (shownPage key label ident limit rows ties number).Perm
        ((pageOf limit (orderBy key rows) number).map ident) := by
    intro number _
    refine ((pageOf_perm ?_ (orderBy_pairwise key rows) (orderBy_ranked_pairwise key _ rows)
      uncut number).map ident).symm
    exact (List.perm_insertionSort _ rows).trans (List.perm_insertionSort _ rows).symm
  refine (List.Perm.flatMap_left (List.range count) each).trans ?_
  have whole : (List.range count).flatMap (pageOf limit (orderBy key rows)) = orderBy key rows := by
    rw [flatMap_pageOf]
    apply List.take_of_length_le
    rw [orderBy, List.length_insertionSort]
    exact all
  rw [← List.map_flatMap, whole]
  exact (List.perm_insertionSort _ rows).map ident

/-- An engine that swaps two tied rows at the end of a page shows one of them twice. -/
theorem exists_repeated (ident : ρ → γ) (positive : 1 ≤ limit) (labels : (rows.map label).Nodup)
    (cut : ¬Uncut key limit rows) {count : Nat} (all : rows.length ≤ count * limit) :
    ∃ ties : Nat → β → Nat,
      ¬((List.range count).flatMap (shownPage key label ident limit rows ties)).Nodup := by
  simp only [Uncut, not_forall, not_not] at cut
  rcases cut with ⟨page, last, next, before, after, tied⟩
  have position : page * limit + limit - 1 + 1 = page * limit + limit := by omega
  rw [← position] at after
  rcases exists_split before after with ⟨front, rest, split, length⟩
  have ordered := orderBy_pairwise key rows
  have same : (orderBy key rows).Perm rows := List.perm_insertionSort _ rows
  rw [split] at ordered same
  have same' : (front ++ next :: last :: rest).Perm rows :=
    (List.Perm.append_left front (.swap last next rest)).trans same
  have ordered' : (front ++ next :: last :: rest).Pairwise fun first second =>
      key first ≤ key second := by
    simp only [List.pairwise_append, List.pairwise_cons, List.mem_cons, forall_eq_or_imp]
      at ordered ⊢
    rcases ordered with ⟨fronts, ⟨⟨_, lasts⟩, nexts, rests⟩, across⟩
    refine ⟨fronts, ⟨⟨le_of_eq tied.symm, nexts⟩, lasts, rests⟩, ?_⟩
    intro row member
    rcases across row member with ⟨toLast, toNext, toRest⟩
    exact ⟨toNext, toLast, toRest⟩
  refine ⟨fun number wanted =>
    if number ≤ page then ((front ++ last :: next :: rest).map label).idxOf wanted
    else ((front ++ next :: last :: rest).map label).idxOf wanted, ?_⟩
  intro once
  have inside : page + 1 < count := by
    by_contra above
    have bound := Nat.mul_le_mul_right limit (Nat.le_of_not_lt above)
    have total := same.length_eq
    simp only [List.length_append, List.length_cons] at total
    rw [Nat.succ_mul] at bound
    omega
  have apart := (List.nodup_flatMap.mp once).2
  have disjoint := List.pairwise_iff_getElem.mp apart page (page + 1)
    (by rw [List.length_range]; omega) (by rw [List.length_range]; exact inside)
    (Nat.lt_succ_self page)
  simp only [List.getElem_range, Function.onFun] at disjoint
  apply disjoint (a := ident last)
  · simp only [shownPage, le_refl, if_true]
    rw [orderBy_idxOf same labels ordered]
    apply List.mem_map_of_mem
    apply mem_pageOf (limit - 1) (by omega)
    rw [show page * limit + (limit - 1) = front.length by omega]
    simp
  · have later : ¬page + 1 ≤ page := Nat.not_succ_le_self page
    simp only [shownPage, if_neg later]
    rw [orderBy_idxOf same' labels ordered']
    apply List.mem_map_of_mem
    apply mem_pageOf 0 positive
    rw [show (page + 1) * limit + 0 = front.length + 1 by rw [Nat.succ_mul]; omega]
    simp

/-- Every row is on a page with rows. -/
theorem exists_page (positive : 1 ≤ limit) {count : Nat}
    (counts : ∀ number, number < count ↔ number * limit < rows.length) {row : ρ}
    (member : row ∈ rows) :
    ∃ number < count, row ∈ pageOf limit rows number := by
  rcases List.getElem?_of_mem member with ⟨place, placed⟩
  refine ⟨place / limit, ?_, ?_⟩
  · rw [counts]
    have bound := (List.getElem?_eq_some_iff.mp placed).1
    exact Nat.lt_of_le_of_lt (Nat.div_mul_le_self place limit) bound
  · apply mem_pageOf (place % limit) (Nat.mod_lt place positive)
    rw [Nat.div_add_mod']
    exact placed

section

variable {count : Nat} (positive : 1 ≤ limit)
  (counts : ∀ number, number < count ↔ number * limit < rows.length)
  (shows : ∀ ranks row value, convert ranks row = .ok value → shown value = ident row)

include positive counts

omit [DecidableEq β] in
include shows in
/-- A client that comes to an end has read all pages, as they are shown. -/
theorem Reads.shownPages {ties : Nat → β → Nat} {result : List α}
    (reads : Reads (answered key label convert limit rows ties) 0 result) :
    result.map shown =
        (List.range count).flatMap (shownPage key label ident limit rows ties) ∧
      ∀ number, number < count →
        (answered key label convert limit rows ties number).isOk = true := by
  have answers : ∀ number answer, answered key label convert limit rows ties number = .ok answer →
      answer.map shown = shownPage key label ident limit rows ties number :=
    fun number answer returned => Result.map_of_mapM (shows _) returned
  have full : ∀ number, 0 ≤ number → number < 0 + count →
      shownPage key label ident limit rows ties number ≠ [] := by
    intro number _ inside empty
    rw [shownPage_eq_nil positive] at empty
    exact Nat.not_lt_of_le empty ((counts number).mp (by omega))
  have last : shownPage key label ident limit rows ties (0 + count) = [] := by
    rw [shownPage_eq_nil positive, Nat.zero_add]
    exact Nat.le_of_not_lt fun more => Nat.lt_irrefl count ((counts count).mpr more)
  have pages := reads.eq_of_pages answers full last
  rw [← List.range_eq_range'] at pages
  exact ⟨pages.1, fun number inside => pages.2 number (Nat.zero_le number) (by omega)⟩

omit [DecidableEq β] in
/-- Where all pages are answered, every row can be converted. -/
theorem converts_of_answered {ranks : β → Nat} (returned : ∀ number, number < count →
      (answered key label convert limit rows (fun _ => ranks) number).isOk = true) :
    ∀ row ∈ rows, (convert ranks row).isOk = true := by
  intro row member
  have sorted : row ∈ orderBy (ranked key fun row => ranks (label row)) rows :=
    mem_orderBy.mpr member
  have length : (orderBy (ranked key fun row => ranks (label row)) rows).length = rows.length :=
    List.length_insertionSort _ _
  rcases exists_page positive (fun number => by rw [length]; exact counts number) sorted with
    ⟨number, inside, paged⟩
  have page := returned number inside
  rw [answered, Result.isOk_mapM_eq, List.all_eq_true] at page
  exact page row paged

omit [DecidableEq β] in
include shows in
/-- A client comes to an end where every row can be converted. -/
theorem exists_reads (key : ρ → κ) (label : ρ → β) (ties : Nat → β → Nat)
    (converts : ∀ ranks, ∀ row ∈ rows, (convert ranks row).isOk = true) :
    ∃ result, Reads (answered key label convert limit rows ties) 0 result := by
  have answers : ∀ number, ∃ values,
      answered key label convert limit rows ties number = .ok values := by
    intro number
    apply Result.isOk_iff.mp
    apply Result.isOk_mapM
    intro row member
    exact converts _ row (mem_orderBy.mp (List.mem_of_mem_drop (List.mem_of_mem_take member)))
  choose values returns using answers
  have empty : ∀ number, values number = [] ↔ rows.length ≤ number * limit := by
    intro number
    have page : (values number).map shown = shownPage key label ident limit rows ties number :=
      Result.map_of_mapM (shows _) (returns number)
    rw [← List.map_eq_nil_iff (f := shown), page, shownPage_eq_nil positive]
  refine ⟨(List.range' 0 count).flatMap values, Reads.of_pages ?_ ?_⟩
  · intro number _ inside
    refine ⟨returns number, ?_⟩
    rw [Ne, empty, Nat.not_le]
    exact (counts number).mp (by omega)
  · have all : rows.length ≤ count * limit :=
      Nat.le_of_not_lt fun more => Nat.lt_irrefl count ((counts count).mpr more)
    rw [Nat.zero_add, returns, (empty count).mpr all]

end

/-- Whatever the engine does, reading page after page yields every row exactly once: this
holds exactly when no page cuts a tie and every row can be converted. -/
theorem reads_perm_iff (positive : 1 ≤ limit) (labels : (rows.map label).Nodup)
    (idents : (rows.map ident).Nodup)
    (shows : ∀ ranks row value, convert ranks row = .ok value → shown value = ident row) :
    (∀ ties, ∃ result, Reads (answered key label convert limit rows ties) 0 result ∧
        (result.map shown).Perm (rows.map ident)) ↔
      Uncut key limit rows ∧ ∀ ranks, ∀ row ∈ rows, (convert ranks row).isOk = true := by
  rcases exists_count positive rows.length with ⟨count, counts⟩
  have all : rows.length ≤ count * limit :=
    Nat.le_of_not_lt fun more => Nat.lt_irrefl count ((counts count).mpr more)
  constructor
  · intro complete
    constructor
    · by_contra cut
      rcases exists_repeated ident positive labels cut all with ⟨ties, repeated⟩
      rcases complete ties with ⟨result, reads, same⟩
      rw [(reads.shownPages positive counts shows).1] at same
      exact repeated (same.nodup_iff.mpr idents)
    · intro ranks
      rcases complete fun _ => ranks with ⟨result, reads, _⟩
      exact converts_of_answered positive counts (reads.shownPages positive counts shows).2
  · rintro ⟨uncut, converts⟩ ties
    rcases exists_reads positive counts shows key label ties converts with ⟨result, reads⟩
    refine ⟨result, reads, ?_⟩
    rw [(reads.shownPages positive counts shows).1]
    exact shownPages_perm uncut ties all

end

end Query

end ChTech.Foundation
