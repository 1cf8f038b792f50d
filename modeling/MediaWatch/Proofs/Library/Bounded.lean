import MediaWatch.Proofs.Library.Complete

/-!
# Readings that end

A server may answer the same question differently each time, repeat its pages, or change their number. Whatever it does,
a reading asks for pages one after the other from the first, each of them once, and for another one only behind a page
that is not taken for the last (`Asked`, `Enumeration.asks_of_answers`). If the numbers of pages that it is told of stay
within a bound, the reading ends (`Enumeration.ends_page`): what is left of the bound gets smaller from page to page,
and the series of a page are a finite list. So it asks for no more pages than the bound allows
(`Enumeration.ends_within_bound`).
-/

namespace MediaWatch

/-! ## Bounds -/

/-- A page that announces others tells of their number, and it lies within a bound. -/
def SeriesPage.Within (bound : Int) (p : SeriesPage) : Prop :=
  p.series ≠ [] → p.hasNext = true → ∃ total, p.totalPages = some total ∧ total ≤ bound

/-- A page that announces others tells of their number. -/
theorem Server.Page.totalPages_ofNodes {α : Type} (nodes : List α) (info : Option PageInfo) (page pageSize : Int)
    (h : (Page.ofNodes nodes info page pageSize).hasNext = true) :
    ∃ total, (Page.ofNodes nodes info page pageSize).totalPages = some total := by
  cases info with
  | none => cases h
  | some info => exact ⟨info.totalPages, rfl⟩

/-- A page within a bound that is not taken for the last one tells of more pages, and leaves some of the bound. -/
theorem SeriesPage.Within.of_not_isLast {bound : Int} {n : Nat} {p : SeriesPage} (hp : p.Within bound)
    (h : Enumeration.isLast n p = false) :
    p.series ≠ [] ∧ p.hasNext = true ∧ ∃ total, p.totalPages = some total ∧ (n : Int) < total ∧ total ≤ bound := by
  obtain ⟨hseries, hnext, -, htotals⟩ := SeriesPage.announces_of_not_isLast h
  obtain ⟨total, htotal, hle⟩ := hp hseries hnext
  have hmore := htotals total htotal
  exact ⟨hseries, hnext, total, htotal, by omega, hle⟩

/-! ## The pages that are asked for -/

/-- Pages that are asked for one after the other from page `n`, with those that are answered: there is no other page
behind one that is taken for the last. -/
inductive Asked : Nat → List Int → List (Nat × SeriesPage) → Prop
  | nothing (n : Nat) : Asked n [] []
  | unanswered (n : Nat) : Asked n [(n : Int)] []
  | answered (n : Nat) (p : SeriesPage) : Asked n [(n : Int)] [(n, p)]
  | next {n : Nat} {p : SeriesPage} {ns : List Int} {ps : List (Nat × SeriesPage)} :
      Enumeration.isLast n p = false → Asked (n + 1) ns ps → Asked n (n :: ns) ((n, p) :: ps)

namespace Asked

variable {n : Nat} {ns : List Int} {ps : List (Nat × SeriesPage)}

/-- The numbers of the pages have no gaps. -/
theorem numbers (h : Asked n ns ps) : ns = (List.range' n ns.length).map fun m : Nat => (m : Int) := by
  induction h with
  | nothing => rfl
  | unanswered => rfl
  | answered => rfl
  | next _ _ ih => rw [List.length_cons, List.range'_succ, List.map_cons, ← ih]

/-- A page behind which another one was asked for was answered, and not taken for the last one. -/
theorem exists_answer (h : Asked n ns ps) {m : Nat} (hm : n ≤ m) (hmore : m + 1 < n + ns.length) :
    ∃ p, (m, p) ∈ ps ∧ Enumeration.isLast m p = false := by
  induction h with
  | nothing => simp at hmore; omega
  | unanswered => simp at hmore; omega
  | answered => simp at hmore; omega
  | @next n p ns ps hlast _ ih =>
    rcases Nat.eq_or_lt_of_le hm with rfl | hlt
    · exact ⟨p, List.mem_cons_self, hlast⟩
    · rw [List.length_cons] at hmore
      obtain ⟨q, hq, hlast⟩ := ih hlt (by omega)
      exact ⟨q, List.mem_cons_of_mem _ hq, hlast⟩

/-- Within a bound no more pages are asked for than it allows, and at least one may be. -/
theorem length_le {bound : Int} (h : Asked 1 ns ps) (hps : ∀ q ∈ ps, q.2.Within bound) :
    (ns.length : Int) ≤ max 1 bound := by
  by_cases hone : ns.length ≤ 1
  · omega
  · obtain ⟨p, hp, hlast⟩ := h.exists_answer (m := ns.length - 1) (by omega) (by omega)
    obtain ⟨-, -, total, -, hlt, hle⟩ := (hps _ hp).of_not_isLast hlast
    omega

end Asked

namespace Enumeration

/-- The questions of a reading on the given answers, the last one of which may be a failure. -/
def asked (pageSize : Int) : List Catalog → Enumeration → List Query
  | [], _ => []
  | c :: later, e =>
    e.query pageSize ::
      match c (e.query pageSize) with
      | .error _ => []
      | .ok reply =>
        match e.step pageSize reply with
        | .done _ => []
        | .ask e' => asked pageSize later e'

/-- The pages that are asked for from where a reading stands, the page at hand included. -/
def Asks : Enumeration → List Int → List (Nat × SeriesPage) → Prop
  | .page _ n _, ns, ps => Asked n ns ps
  | .media _ n p _ _ _, ns, ps => Asked n (n :: ns) ((n, p) :: ps)

/-- The same of a reading that goes on or is over. -/
def Next.Asks : Next → List Int → List (Nat × SeriesPage) → Prop
  | .ask e, ns, ps => e.Asks ns ps
  | .done _, ns, ps => ns = [] ∧ ps = []

section Asking

variable {pageSize : Int} {library : Text} {n : Nat} {p : SeriesPage} {found : Snapshot} {series : List Text}

/-- What is asked for behind a page is asked for behind that page only if it is not taken for the last one. -/
theorem asked_of_follow {ns : List Int} {ps : List (Nat × SeriesPage)}
    (h : (follow library n p found series).Asks ns ps) : Asked n (n :: ns) ((n, p) :: ps) := by
  cases series with
  | cons id later => exact h
  | nil =>
    rw [follow_nil] at h
    cases hlast : isLast n p with
    | true =>
      rw [if_pos hlast] at h
      obtain ⟨rfl, rfl⟩ := h
      exact .answered n p
    | false =>
      rw [if_neg (by simp [hlast])] at h
      exact .next hlast h

/-- What a reading asks for is asked for in order, and what it is told of are answers to that. -/
theorem asks_of_answers (answers : List Catalog) (e : Enumeration) :
    e.Asks ((e.asked pageSize answers).filterMap Query.page?) (pagesIn (e.log pageSize answers)) := by
  induction answers generalizing e with
  | nil =>
    cases e with
    | page library n found => exact .nothing n
    | media library n p series later found => exact .answered n p
  | cons c answers ih =>
    -- the questions that follow an answer
    have hnext (next : Next) : next.Asks
        ((match next with | .done _ => [] | .ask e' => e'.asked pageSize answers).filterMap Query.page?)
        (pagesIn (match next with | .done _ => [] | .ask e' => e'.log pageSize answers)) := by
      cases next with
      | done s => exact ⟨rfl, rfl⟩
      | ask e' => exact ih e'
    rw [asked, log]
    cases e with
    | page library n found =>
      cases hc : c ((page library n found).query pageSize) with
      | error reason => exact .unanswered n
      | ok reply => exact asked_of_follow (hnext ((page library n found).step pageSize reply))
    | media library n p series later found =>
      cases hc : c ((media library n p series later found).query pageSize) with
      | error reason => exact .answered n p
      | ok reply => exact asked_of_follow (hnext ((media library n p series later found).step pageSize reply))

end Asking

/-! ## Answers one after the other -/

/-- The first answers of a server, which may answer each time as it likes. -/
def upTo (n : Nat) (answers : Nat → Catalog) : List Catalog := (List.range n).map answers

theorem upTo_succ (n : Nat) (answers : Nat → Catalog) :
    upTo (n + 1) answers = answers 0 :: upTo n (fun k => answers (k + 1)) := by
  simp [upTo, List.range_succ_eq_map, Function.comp_def]

/-- Whether a reading comes to an end. -/
def Next.Ends (pageSize : Int) (answers : Nat → Catalog) : Next → Prop
  | .done _ => True
  | .ask e => ∃ n result, e.read pageSize (upTo n answers) = some (result, [])

/-- Whether the pages that a reading is told of stay within a bound. -/
def Next.Within (pageSize bound : Int) (answers : Nat → Catalog) : Next → Prop
  | .done _ => True
  | .ask e => ∀ n, ∀ q ∈ pagesIn (e.log pageSize (upTo n answers)), q.2.Within bound

section Ending

variable {pageSize bound : Int} {answers : Nat → Catalog} {e : Enumeration} {library : Text} {n : Nat}
  {p : SeriesPage}

theorem ends_of_error {reason : Text} (h : answers 0 (e.query pageSize) = .error reason) :
    (Next.ask e).Ends pageSize answers := by
  refine ⟨1, .error reason, ?_⟩
  rw [upTo_succ, read, h]
  rfl

/-- A reading ends if it does so after an answer. -/
theorem ends_of_answer {reply : (e.query pageSize).Reply} (h : answers 0 (e.query pageSize) = .ok reply)
    (hnext : (e.step pageSize reply).Ends pageSize fun k => answers (k + 1)) : (Next.ask e).Ends pageSize answers := by
  cases hstep : e.step pageSize reply with
  | done s =>
    refine ⟨1, .ok s, ?_⟩
    rw [upTo_succ, read, h]
    simp only [hstep]
    rfl
  | ask e' =>
    rw [hstep] at hnext
    obtain ⟨n, result, hread⟩ := hnext
    refine ⟨n + 1, result, ?_⟩
    rw [upTo_succ, read, h]
    simp only [hstep]
    exact hread

/-- What is told by an answer and after it stays within the bound. -/
theorem within_of_answer (hwithin : (Next.ask e).Within pageSize bound answers) {reply : (e.query pageSize).Reply}
    (h : answers 0 (e.query pageSize) = .ok reply) :
    (∀ q, (e.record pageSize reply).page? = some q → q.2.Within bound) ∧
      (e.step pageSize reply).Within pageSize bound fun k => answers (k + 1) := by
  constructor
  · intro q hq
    obtain ⟨later, hlog⟩ : ∃ later, e.log pageSize (upTo 1 answers) = e.record pageSize reply :: later := by
      rw [upTo_succ, log, h]
      exact ⟨_, rfl⟩
    refine hwithin 1 q ?_
    rw [hlog, pagesIn, List.filterMap_cons_some hq]
    exact List.mem_cons_self
  · cases hstep : e.step pageSize reply with
    | done s => trivial
    | ask e' =>
      intro n q hq
      have hlog : e.log pageSize (upTo (n + 1) answers) =
          e.record pageSize reply :: e'.log pageSize (upTo n fun k => answers (k + 1)) := by
        rw [upTo_succ, log, h]
        simp only [hstep]
      refine hwithin (n + 1) q ?_
      rw [hlog, pagesIn, List.filterMap_cons]
      split
      · exact hq
      · exact List.mem_cons_of_mem _ hq

/-- A reading ends if it does so when the media of all series of its page are known. -/
theorem ends_follow
    (hlater : ∀ answers found, (follow library n p found []).Within pageSize bound answers →
      (follow library n p found []).Ends pageSize answers)
    (series : List Text) (answers : Nat → Catalog) (found : Snapshot)
    (hwithin : (follow library n p found series).Within pageSize bound answers) :
    (follow library n p found series).Ends pageSize answers := by
  induction series generalizing answers found with
  | nil => exact hlater answers found hwithin
  | cons id later ih =>
    let e := Enumeration.media library n p id later (found.addSeries id)
    show (Next.ask e).Ends pageSize answers
    cases h : answers 0 (e.query pageSize) with
    | error reason => exact ends_of_error h
    | ok listed => exact ends_of_answer h (ih _ _ (within_of_answer (e := e) hwithin h).2)

/-- A reading whose pages stay within a bound ends. With each page less of the bound is left. -/
theorem ends_page (bound : Int) (n : Nat) (answers : Nat → Catalog) (found : Snapshot)
    (hwithin : (Next.ask (.page library n found)).Within pageSize bound answers) :
    (Next.ask (.page library n found)).Ends pageSize answers := by
  induction hleft : (bound - n).toNat using Nat.strong_induction_on generalizing n answers found with
  | _ left ih =>
    cases h : answers 0 (.seriesPage library n pageSize) with
    | error reason => exact ends_of_error (e := .page library n found) h
    | ok p =>
      obtain ⟨htold, hnext⟩ := within_of_answer (e := .page library n found) hwithin h
      have hp : p.Within bound := htold (n, p) rfl
      refine ends_of_answer (e := .page library n found) h (ends_follow ?_ p.series _ found hnext)
      intro answers' found' hwithin'
      rw [follow_nil] at hwithin' ⊢
      cases hlast : isLast n p with
      | true => trivial
      | false =>
        rw [hlast] at hwithin'
        obtain ⟨-, -, total, -, hlt, hle⟩ := hp.of_not_isLast hlast
        exact ih _ (by omega) (n + 1) answers' found' hwithin' rfl

/-- The pages that a reading is told of are answers of the server. -/
theorem exists_answer_of_mem_log {answers : List Catalog} {q : Nat × SeriesPage}
    (hq : q ∈ pagesIn (e.log pageSize answers)) :
    ∃ c ∈ answers, ∃ library, c (.seriesPage library q.1 pageSize) = .ok q.2 := by
  induction answers generalizing e with
  | nil => cases hq
  | cons c answers ih =>
    have hlater {e' : Enumeration} (hq : q ∈ pagesIn (e'.log pageSize answers)) :
        ∃ c' ∈ c :: answers, ∃ library, c' (.seriesPage library q.1 pageSize) = .ok q.2 := by
      obtain ⟨c', hc', hanswer⟩ := ih hq
      exact ⟨c', List.mem_cons_of_mem _ hc', hanswer⟩
    rw [log] at hq
    cases hc : c (e.query pageSize) with
    | error reason =>
      rw [hc] at hq
      cases hq
    | ok reply =>
      rw [hc] at hq
      have hrest (hq : q ∈ pagesIn (match e.step pageSize reply with
          | .done _ => []
          | .ask e' => e'.log pageSize answers)) :
          ∃ c' ∈ c :: answers, ∃ library, c' (.seriesPage library q.1 pageSize) = .ok q.2 := by
        cases hstep : e.step pageSize reply with
        | done s => rw [hstep] at hq; cases hq
        | ask e' => rw [hstep] at hq; exact hlater hq
      cases e with
      | page library n found =>
        rcases List.mem_cons.mp hq with rfl | hq
        · exact ⟨c, List.mem_cons_self, library, hc⟩
        · exact hrest hq
      | media library n p series later found => exact hrest hq

end Ending

/-- **Readings end on every server** whose pages, as far as they announce others, tell of their number and keep it within
a bound, as all pages that are built from the nodes of an answer tell of it. The pages are asked for from the first, one
after the other and each of them once, and there are no more of them than the bound allows, or one. There is another page
only behind one that has series, announces the next, and tells of more pages than those that were asked for. -/
theorem ends_within_bound :
    (∀ {α : Type} (nodes : List α) (info : Option Server.PageInfo) (page pageSize : Int),
      (Server.Page.ofNodes nodes info page pageSize).hasNext = true →
        ∃ total, (Server.Page.ofNodes nodes info page pageSize).totalPages = some total) ∧
    ∀ (pageSize : Int) (library : Text) (answers : Nat → Catalog) (bound : Int),
      (∀ n, ∀ q ∈ pagesIn ((start library).log pageSize (upTo n answers)), q.2.Within bound) →
      ∃ n result pages, (start library).read pageSize (upTo n answers) = some (result, []) ∧
        ((start library).asked pageSize (upTo n answers)).filterMap Query.page? =
          (List.range' 1 pages).map (fun p : Nat => (p : Int)) ∧
        (pages : Int) ≤ max 1 bound ∧
        ∀ p : Nat, 1 ≤ p → p < pages →
          ∃ reply, (p, reply) ∈ pagesIn ((start library).log pageSize (upTo n answers)) ∧
            reply.series ≠ [] ∧ reply.hasNext = true ∧ ∃ total, reply.totalPages = some total ∧ (p : Int) < total := by
  refine ⟨Server.Page.totalPages_ofNodes, fun pageSize library answers bound hwithin => ?_⟩
  obtain ⟨n, result, hread⟩ := ends_page bound 1 answers .empty hwithin
  have hasks : Asked 1 (((start library).asked pageSize (upTo n answers)).filterMap Query.page?)
      (pagesIn ((start library).log pageSize (upTo n answers))) := asks_of_answers (upTo n answers) (start library)
  refine ⟨n, result, _, hread, hasks.numbers, hasks.length_le (hwithin n), fun p hp hmore => ?_⟩
  obtain ⟨reply, hmem, hlast⟩ := hasks.exists_answer hp (by omega)
  obtain ⟨hseries, hnext, total, htotal, hlt, -⟩ := (hwithin n _ hmem).of_not_isLast hlast
  exact ⟨reply, hmem, hseries, hnext, total, htotal, hlt⟩

/-- A server that answers the same page whatever page it is asked for, and tells of three. -/
theorem ends_within_bound_of_same_page :
    let c : Catalog
      | .libraries => .ok []
      | .seriesPage .. => .ok ⟨["s"], true, some 3⟩
      | .media _ => .ok []
    (∀ n, ∀ q ∈ pagesIn ((start "l").log 10 (upTo n fun _ => c)), q.2.Within 3) ∧
      ∃ n result pages, (start "l").read 10 (upTo n fun _ => c) = some (result, []) ∧
        ((start "l").asked 10 (upTo n fun _ => c)).filterMap Query.page? =
          (List.range' 1 pages).map (fun p : Nat => (p : Int)) ∧ (pages : Int) ≤ 3 := by
  intro c
  have hwithin : ∀ n, ∀ q ∈ pagesIn ((start "l").log 10 (upTo n fun _ => c)), q.2.Within 3 := by
    intro n q hq
    obtain ⟨c', hc', library, hanswer⟩ := exists_answer_of_mem_log hq
    obtain ⟨k, -, rfl⟩ := List.mem_map.mp hc'
    have hpage : (⟨["s"], true, some 3⟩ : SeriesPage) = q.2 := Except.ok.inj hanswer
    rw [← hpage]
    exact fun _ _ => ⟨3, rfl, le_refl _⟩
  obtain ⟨n, result, pages, hread, hpages, hle, -⟩ := ends_within_bound.2 10 "l" (fun _ => c) 3 hwithin
  exact ⟨hwithin, n, result, pages, hread, hpages, hle⟩

end Enumeration

end MediaWatch
