/-
Asking a platform in memory for page after page.

The pages are as many as the operations fill, one at least; together they
are the operations in the order of their issue.  All but the last are full
and say that another one follows.  A startup that collects the operations
of a pass asks for exactly these pages.

* `Pages.lt_pageCount_iff`: which pages another one follows;
* `Pages.flatMap_pageOf`: the first pages, taken together;
* `Pages.flatMap_pagesOf`: all pages together are all operations;
* `MemoryPlatform.Asked.unique`: the answers leave no choice;
* `MemoryPlatform.paged`: the pages that are asked for;
* `ServiceSystem.leads_asked`: a startup collects what is on them;
* `ServiceSystem.pagination`: both for every platform of fewer operations
  than there are page numbers.
-/
import Mathlib.Algebra.Group.Nat.Defs
import RemoteOps.Proofs.Journal
import RemoteOps.Proofs.Service.Reconciliation

namespace RemoteOps

/-! ### Pages of a list -/

namespace Pages

open ServiceSystem (pageOf)

/-- How many pages of a size some operations fill, one at least. -/
def pageCount (n size : Nat) : Nat := max 1 ((n + size - 1) / size)

/-- The largest index into a list. -/
def largestIndex : Nat := 2 ^ 64 - 1

/-- A page that is looked up with indices which stop at the largest one. -/
def wordPage (l : List Operation) (size page : Nat) : OperationPage :=
  let start := min (page * size) largestIndex
  ⟨(l.drop start).take size, min (start + size) largestIndex < l.length⟩

variable {l : List Operation} {n size page : Nat}

/-- A page that ends within range is looked up with any indices. -/
lemma wordPage_eq (h : page * size + size ≤ largestIndex) :
    wordPage l size page = pageOf l size page := by
  rw [wordPage, pageOf, Nat.min_eq_left (Nat.le_of_add_right_le h),
    Nat.min_eq_left h]

lemma pageCount_pos (n size : Nat) : 0 < pageCount n size :=
  Nat.lt_of_lt_of_le Nat.zero_lt_one (Nat.le_max_left _ _)

/-- Another page follows exactly if there is more. -/
lemma lt_pageCount_iff (hs : 0 < size) :
    page + 1 < pageCount n size ↔ (page + 1) * size < n := by
  have hdiv : page + 2 ≤ (n + size - 1) / size
      ↔ (page + 2) * size ≤ n + size - 1 := Nat.le_div_iff_mul_le hs
  have hmul : (page + 2) * size = (page + 1) * size + size := by
    rw [← Nat.succ_mul]
  rw [pageCount]
  omega

/-- With the last page nothing is left. -/
lemma le_pageCount_mul (hs : 0 < size) : n ≤ pageCount n size * size := by
  obtain ⟨page, hpage⟩ :=
    Nat.exists_eq_add_of_lt (pageCount_pos n size)
  rw [Nat.zero_add] at hpage
  have hlast : ¬ page + 1 < pageCount n size ↔ ¬ (page + 1) * size < n :=
    not_congr (lt_pageCount_iff hs)
  rw [hpage] at hlast ⊢
  omega

/-- The first pages are the first operations. -/
lemma flatMap_pageOf (l : List Operation) (size k : Nat) :
    (List.range k).flatMap (fun i => (pageOf l size i).operations)
      = l.take (k * size) := by
  induction k with
  | zero => simp
  | succ k ih =>
    calc (List.range (k + 1)).flatMap
          (fun i => (pageOf l size i).operations)
        = l.take (k * size) ++ (l.drop (k * size)).take size := by
          rw [List.range_succ, List.flatMap_append, ih,
            List.flatMap_singleton]
          rfl
      _ = l.take ((k + 1) * size) := by
          rw [← List.take_add, Nat.succ_mul]

/-- The pages that some operations fill. -/
def pagesOf (l : List Operation) (size : Nat) : List OperationPage :=
  (List.range (pageCount l.length size)).map (pageOf l size)

@[simp]
lemma length_pagesOf (l : List Operation) (size : Nat) :
    (pagesOf l size).length = pageCount l.length size := by
  rw [pagesOf, List.length_map, List.length_range]

lemma getElem?_pagesOf {i : Nat} {batch : OperationPage}
    (h : (pagesOf l size)[i]? = some batch) :
    i < pageCount l.length size ∧ batch = pageOf l size i := by
  obtain ⟨hlt, heq⟩ := List.getElem?_eq_some_iff.1 h
  rw [length_pagesOf] at hlt
  exact ⟨hlt, by simpa [pagesOf] using heq.symm⟩

/-- All pages together are all operations. -/
lemma flatMap_pagesOf (l : List Operation) (hs : 0 < size) :
    (pagesOf l size).flatMap (·.operations) = l := by
  rw [pagesOf, List.flatMap_map, flatMap_pageOf,
    List.take_of_length_le (le_pageCount_mul hs)]

/-- A page that another one follows is full. -/
lemma length_pageOf (h : (page + 1) * size < l.length) :
    (pageOf l size page).operations.length = size := by
  rw [Nat.succ_mul] at h
  rw [pageOf, List.length_take, List.length_drop]
  omega

lemma hasNext_pageOf (l : List Operation) (size page : Nat) :
    (pageOf l size page).hasNext = true ↔ (page + 1) * size < l.length := by
  rw [pageOf, decide_eq_true_iff, Nat.succ_mul]

/-- The indices of a page that is asked for are far from the largest
one. -/
lemma index_le (hs : 0 < size) (hsize : size < 2 ^ 32) (hn : n < 2 ^ 32)
    (hp : page < pageCount n size) :
    page < 2 ^ 32 ∧ page * size + size ≤ largestIndex := by
  cases page with
  | zero =>
    rw [largestIndex]
    omega
  | succ page =>
    have hlt := (lt_pageCount_iff hs).1 hp
    have hle : page + 1 ≤ (page + 1) * size := Nat.le_mul_of_pos_right _ hs
    rw [largestIndex]
    omega

end Pages

/-! ### Asking for pages -/

/-- Whether no page follows: a page says so, or is empty. -/
def OperationPage.isLast (batch : OperationPage) : Bool :=
  !batch.hasNext || batch.operations.isEmpty

namespace MemoryPlatform

open ServiceSystem (pageOf)
open Pages (pageCount wordPage)

variable {m : MemoryPlatform} {kind : String} {status : Status}
  {size page : Nat} {pages pages' : List OperationPage}

/-- Asking for page after page, up to the last one. -/
inductive Asked (m : MemoryPlatform) (kind : String) (status : Status)
    (size : Nat) : Nat → List OperationPage → Prop where
  | last {page : Nat} {batch : OperationPage}
    (answer : m.query kind status size page = (.ok batch, m))
    (done : batch.isLast = true) : Asked m kind status size page [batch]
  | next {page : Nat} {batch : OperationPage} {rest : List OperationPage}
    (answer : m.query kind status size page = (.ok batch, m))
    (more : batch.isLast = false)
    (asked : Asked m kind status size (page + 1) rest) :
    Asked m kind status size page (batch :: rest)

/-- The answers leave no choice. -/
lemma Asked.unique (h : Asked m kind status size page pages)
    (h' : Asked m kind status size page pages') : pages' = pages := by
  have heq : ∀ {page : Nat} {batch batch' : OperationPage},
      m.query kind status size page = (.ok batch, m) →
      m.query kind status size page = (.ok batch', m) →
      batch' = batch := by
    intro page batch batch' hb hb'
    exact Except.ok.inj (Prod.mk.inj (hb'.symm.trans hb)).1
  induction h generalizing pages' with
  | last answer done =>
    cases h' with
    | last answer' => rw [heq answer answer']
    | next answer' more =>
      rw [heq answer answer', done] at more
      cases more
  | next answer more _ ih =>
    cases h' with
    | last answer' done =>
      rw [heq answer answer', more] at done
      cases done
    | next answer' _ asked' => rw [heq answer answer', ih asked']

/-- A page of a query that does not fail.  A page has room for one
operation at least. -/
lemma query_eq_pageOf (hq : m.failQueries = false) (kind : String)
    (status : Status) (size page : Nat) : m.query kind status size page
      = (.ok (pageOf (m.matching kind status) (max size 1) page), m) := by
  rw [query, hq, if_neg Bool.false_ne_true]
  rfl

/-- The pages are asked for, from any of them on. -/
lemma asked_range' (hq : m.failQueries = false) (k : Nat)
    (hk : page + k + 1
      = pageCount (m.matching kind status).length (max size 1)) :
    Asked m kind status size page ((List.range' page (k + 1)).map
      (pageOf (m.matching kind status) (max size 1))) := by
  have hs : 0 < max size 1 := Nat.le_max_right size 1
  -- by induction on how many pages come after the one of this number
  induction k generalizing page with
  | zero =>
    have hlast : ¬ (pageOf (m.matching kind status) (max size 1)
        page).hasNext = true := by
      rw [Pages.hasNext_pageOf, ← Pages.lt_pageCount_iff hs]
      omega
    exact .last (query_eq_pageOf hq kind status size page)
      (by simp [OperationPage.isLast, hlast])
  | succ k ih =>
    have hlt : (page + 1) * max size 1
        < (m.matching kind status).length := by
      rw [← Pages.lt_pageCount_iff hs]
      omega
    have hlen := Pages.length_pageOf hlt
    have hne : (pageOf (m.matching kind status) (max size 1)
        page).operations ≠ [] := by
      intro hnil
      rw [hnil, List.length_nil] at hlen
      omega
    have hmore := (Pages.hasNext_pageOf _ _ _).2 hlt
    rw [List.range'_succ, List.map_cons]
    exact .next (query_eq_pageOf hq kind status size page)
      (by simp [OperationPage.isLast, hmore, hne]) (ih (by omega))

/-- The pages that are asked for. -/
structure Paged (m : MemoryPlatform) (kind : String) (status : Status)
    (size : Nat) (pages : List OperationPage) : Prop where
  /-- They are what asking from the first page on comes to, and nothing
  else is. -/
  asked : ∀ pages', Asked m kind status size 0 pages' ↔ pages' = pages
  length : pages.length
    = max 1 (((m.matching kind status).length + max size 1 - 1)
      / max size 1)
  /-- Together they are the operations of the kind in the status, in the
  order of their issue. -/
  operations : pages.flatMap (·.operations)
    = m.operations.filter fun o => o.status = status && o.hasFragment kind
  hasNext : ∀ i batch, pages[i]? = some batch →
    (batch.hasNext = true ↔ i + 1 < pages.length)
  full : ∀ i batch, pages[i]? = some batch → i + 1 < pages.length →
    batch.operations.length = max size 1
  /-- Their numbers have 32 bits, and no index stops at the largest one. -/
  words : ∀ i batch, pages[i]? = some batch → i < 2 ^ 32
    ∧ i * max size 1 + max size 1 ≤ Pages.largestIndex
    ∧ batch = wordPage (m.matching kind status) (max size 1) i

lemma asked_pagesOf (hq : m.failQueries = false) (kind : String)
    (status : Status) (size : Nat) : Asked m kind status size 0
      (Pages.pagesOf (m.matching kind status) (max size 1)) := by
  set count := pageCount (m.matching kind status).length (max size 1)
    with hcount
  have hsub : count - 1 + 1 = count :=
    Nat.sub_add_cancel (Pages.pageCount_pos _ _)
  have h : Asked m kind status size 0 ((List.range' 0 (count - 1 + 1)).map
      (pageOf (m.matching kind status) (max size 1))) :=
    asked_range' hq _ (by rw [Nat.zero_add, hsub])
  rwa [hsub, ← List.range_eq_range'] at h

/-- Asking a platform for the operations of a kind in a status comes to the
pages that they fill. -/
theorem paged (hq : m.failQueries = false)
    (hlen : m.operations.length < 2 ^ 32) (hsize : size < 2 ^ 32)
    (kind : String) (status : Status) :
    ∃ pages, Paged m kind status size pages := by
  have hs : 0 < max size 1 := Nat.le_max_right size 1
  have hs' : max size 1 < 2 ^ 32 := by omega
  have hn : (m.matching kind status).length < 2 ^ 32 :=
    Nat.lt_of_le_of_lt (List.length_filter_le _ _) hlen
  have hasked := asked_pagesOf hq kind status size
  refine ⟨Pages.pagesOf (m.matching kind status) (max size 1),
    fun pages' => ⟨hasked.unique, fun h => h ▸ hasked⟩,
    Pages.length_pagesOf _ _, Pages.flatMap_pagesOf _ hs,
    fun i batch hi => ?_, fun i batch hi hlt => ?_, fun i batch hi => ?_⟩
  · obtain ⟨-, rfl⟩ := Pages.getElem?_pagesOf hi
    rw [Pages.hasNext_pageOf, Pages.length_pagesOf,
      Pages.lt_pageCount_iff hs]
  · obtain ⟨-, rfl⟩ := Pages.getElem?_pagesOf hi
    rw [Pages.length_pagesOf, Pages.lt_pageCount_iff hs] at hlt
    exact Pages.length_pageOf hlt
  · obtain ⟨hlt, rfl⟩ := Pages.getElem?_pagesOf hi
    obtain ⟨hnumber, hindex⟩ := Pages.index_le hs hs' hn hlt
    exact ⟨hnumber, hindex, (Pages.wordPage_eq hindex).symm⟩

end MemoryPlatform

/-! ### Collecting the operations of a pass -/

namespace ServiceSystem

open MemoryPlatform (Asked Paged)

variable {τ : Type} {H : Host τ} {sv : Service} {m : MemoryPlatform}
  {x : τ} {site : Site (MemoryPlatform × τ)} {pass : Pass}
  {pages : List OperationPage} {page : Nat}

/-- The queries for some pages, from the one of a number on. -/
def queries (kind : String) (status : Status) (size : Nat) :
    Nat → List OperationPage → List Event
  | _, [] => []
  | page, batch :: rest =>
    .query kind status size page (.ok batch)
      :: queries kind status size (page + 1) rest

/-- With a page that is not the last one, a startup goes on to the next
one; with the last one, it has collected all operations. -/
lemma leads_answer (hw : sv.worker = none) (hd : sv.shutdowns = [])
    (hm : site.world = (m, x)) {batch : OperationPage}
    (answer : m.query pass.kind .executing sv.config.pageSize page
      = (.ok batch, m)) (found : List Operation) (due : Nat) :
    ∃ site', site'.world = (m, x)
      ∧ site'.journal.events = site.journal.events
        ++ [.query pass.kind .executing sv.config.pageSize page (.ok batch)]
      ∧ ∃ due', (machine H.platform).Leads
        (alone ⟨site, sv, .startup (.querying pass page found due)⟩)
        (alone (if batch.isLast then
            Startup.settleAll H.platform site' sv
              (found ++ batch.operations) pass
          else ⟨site', sv, .startup (.querying pass (page + 1)
            (found ++ batch.operations) due')⟩)) := by
  set site₁ := { site with now := max site.now due } with hsite₁
  set site' := site₁.answered (m, x)
    (.query pass.kind .executing sv.config.pageSize page (.ok batch))
    with hsite'
  have hm₁ : site₁.world = (m, x) := hm
  have hquery : site₁.query H.platform pass.kind .executing
      sv.config.pageSize page = (.ok batch, site') := by
    rw [H.query_eq, hm₁, answer]
  have hstep : (machine H.platform).Leads
      (alone ⟨site, sv, .startup (.querying pass page found due)⟩)
      (alone (Startup.resume H.platform site₁ sv _)) :=
    leads_startup hw hd rfl
  simp only [Startup.resume, hquery] at hstep
  exact ⟨site', rfl, Journal.events_cons _ _, site'.due H.platform .query,
    hstep⟩

/-- A startup asks for page after page and collects what is on them. -/
lemma leads_asked (hw : sv.worker = none) (hd : sv.shutdowns = [])
    (h : Asked m pass.kind .executing sv.config.pageSize page pages)
    (hm : site.world = (m, x)) (found : List Operation) (due : Nat) :
    ∃ site', site'.world = (m, x)
      ∧ site'.journal.events = site.journal.events
        ++ queries pass.kind .executing sv.config.pageSize page pages
      ∧ (machine H.platform).Leads
        (alone ⟨site, sv, .startup (.querying pass page found due)⟩)
        (alone (Startup.settleAll H.platform site' sv
          (found ++ pages.flatMap (·.operations)) pass)) := by
  induction h generalizing site found due with
  | last answer done =>
    obtain ⟨site', hm', hevents, _, hstep⟩ :=
      leads_answer (H := H) hw hd hm answer found due
    rw [if_pos done] at hstep
    exact ⟨site', hm', hevents, by rwa [List.flatMap_singleton]⟩
  | @next page batch _ answer more _ ih =>
    obtain ⟨site₁, hm₁, hevents₁, due', hstep⟩ :=
      leads_answer (H := H) hw hd hm answer found due
    rw [if_neg (Bool.eq_false_iff.1 more)] at hstep
    obtain ⟨site', hm', hevents, hrest⟩ :=
      ih hm₁ (found ++ batch.operations) due'
    refine ⟨site', hm', ?_, ?_⟩
    · rw [hevents, hevents₁, List.append_assoc]
      rfl
    · rw [List.flatMap_cons, ← List.append_assoc]
      exact hstep.trans hrest

/-- What asking a platform for pages comes to. -/
structure Pagination (m : MemoryPlatform) : Prop where
  /-- No page is answered while queries are to fail. -/
  unanswered : m.failQueries = true → ∀ kind status size page,
    m.query kind status size page = (.error MemoryPlatform.unreachable, m)
  paged : m.failQueries = false → ∀ kind status size, size < 2 ^ 32 →
    ∃ pages, Paged m kind status size pages
  /-- A startup collects exactly the operations of a pass, in the order of
  their issue, and asks for their pages only. -/
  collected : m.failQueries = false →
    ∀ (τ : Type) (H : Host τ) (x : τ) (sv : Service)
      (site : Site (MemoryPlatform × τ)) (pass : Pass),
    sv.worker = none → sv.shutdowns = [] → sv.config.pageSize < 2 ^ 32 →
    site.world = (m, x) → ∃ pages site',
      Paged m pass.kind .executing sv.config.pageSize pages
        ∧ site'.world = (m, x)
        ∧ site'.journal.events = site.journal.events
          ++ queries pass.kind .executing sv.config.pageSize 0 pages
        ∧ (machine H.platform).Leads
          (alone (Startup.beginPass H.platform site sv pass))
          (alone (Startup.settleAll H.platform site' sv
            (m.operations.filter fun o =>
              o.status = .executing && o.hasFragment pass.kind) pass))

/-- As long as there are fewer operations than page numbers, asking for
pages comes to an end with all operations. -/
theorem pagination (m : MemoryPlatform)
    (hlen : m.operations.length < 2 ^ 32) : Pagination m where
  unanswered := by
    intro hq kind status size page
    rw [MemoryPlatform.query, if_pos hq]
  paged := fun hq kind status _ hsize =>
    MemoryPlatform.paged hq hlen hsize kind status
  collected := by
    intro hq τ H x sv site pass hw hd hsize hm
    obtain ⟨pages, hpages⟩ :=
      MemoryPlatform.paged hq hlen hsize pass.kind .executing
    obtain ⟨site', hm', hevents, hleads⟩ := leads_asked (H := H) hw hd
      ((hpages.asked pages).2 rfl) hm [] (site.due H.platform .query)
    rw [List.nil_append, hpages.operations] at hleads
    exact ⟨pages, site', hpages, hm', hevents, hleads⟩

/-- Five restarts that are executing, with a pending one among them. -/
def fiveRestarts : MemoryPlatform where
  operations :=
    let restart (id : String) :=
      (Operation.new id).withFragment Kind.restart (.object [])
    ["1", "2", "3"].map (fun id => (restart id).withStatus .executing)
      ++ [restart "4"]
      ++ ["5", "6"].map (fun id => (restart id).withStatus .executing)

/-- They fill three pages of two, and a startup collects them. -/
theorem pagination_fiveRestarts :
    let sv : Service := { config := { pageSize := 2 }, candidates := [] }
    let site : Site (MemoryPlatform × Unit) := { world := (fiveRestarts, ()) }
    fiveRestarts.operations.length < 2 ^ 32
      ∧ ∃ pages site', pages.length = 3
        ∧ Paged fiveRestarts Kind.restart .executing 2 pages
        ∧ (machine Host.prompt.platform).Leads
          (alone (Startup.beginPass Host.prompt.platform site sv .restarts))
          (alone (Startup.settleAll Host.prompt.platform site' sv
            (["1", "2", "3", "5", "6"].map fun id =>
              ((Operation.new id).withFragment Kind.restart
                (.object [])).withStatus .executing) .restarts)) := by
  intro sv site
  have hlen : fiveRestarts.operations.length < 2 ^ 32 := by decide
  obtain ⟨pages, site', hpages, -, -, hleads⟩ :=
    (pagination fiveRestarts hlen).collected rfl Unit Host.prompt () sv site
      .restarts rfl rfl (by decide) rfl
  exact ⟨hlen, pages, site', hpages.length.trans (by decide), hpages, hleads⟩

end ServiceSystem

end RemoteOps
