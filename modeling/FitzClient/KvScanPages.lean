import FitzClient.KvScanAll

/-!
# The pages of a scan

A page of `scan_page` is a page of what its request asks for, and the request
after it asks for what the page has left over.  So the pages of `scan_all` are
together what the first request asks for, and there is one for each pair at
most.  A broker that reads its requests and cuts its pages as it likes is
honest, for every store.
-/

namespace FitzClient

open TokenReader ResponseReader CursorPaging

namespace KvScan

variable {handle : KvScanHandle} {answer : Nat → Bytes → Except KvScanException Bytes}
  {store : KvStore} {endInclusive : Bool} {arguments : KvScanArguments}

/-- The request of a call, with the limit as it was checked. -/
def request (arguments : KvScanArguments) (limit : Option Nat) : KvScanRequest where
  startKey := arguments.startKey
  endKey := arguments.endKey
  limit := limit
  reverse := arguments.reverse
  startExclusive := arguments.startExclusive

theorem decodeReply_layout {page : KvScanPage} (fits : Fits page) :
    decodeReply (BigEndian.encode 1 0 ++ layout page) = .ok page := by
  unfold decodeReply
  rw [KvStatus.status_eq_ok_iff.mpr rfl]
  exact exact_readPage.whole_eq_ok_iff.mpr ⟨fits, rfl⟩

/-- `scan_page` once its limit is checked and the transaction is open. -/
theorem scanPage_eq {limit : Option Nat} (isOpen : handle.ensureOpen = .ok ())
    (checked : KvScanRequest.checkLimit arguments.limit = .ok limit) (turn : Nat) :
    scanPage handle (answer turn) arguments =
      if (request arguments limit).inverted then
        .ok { entries := [], hasMore := false }
      else
        operation handle (answer turn) (request arguments limit) := by
  unfold scanPage request
  rw [checked, isOpen]
  rfl

theorem operation_of_reply {request : KvScanRequest} (isOpen : handle.ensureOpen = .ok ())
    {turn : Nat} {payload reply : Bytes} {page : KvScanPage}
    (built : request.build handle = .ok payload) (answered : answer turn payload = .ok reply)
    (decoded : decodeReply reply = .ok page) :
    operation handle (answer turn) request = .ok page := by
  unfold operation
  rw [isOpen, built]
  change (answer turn payload >>= _) = _
  rw [answered]
  change Except.mapError _ (decodeReply reply) = _
  rw [decoded]
  rfl

/-- The operation gives a page of what its request asks for. -/
theorem operation_isPage {request : KvScanRequest} (isOpen : handle.ensureOpen = .ok ())
    (honest : store.Honest endInclusive handle answer) (fits : request.Fits) (turn : Nat) :
    ∃ page, operation handle (answer turn) request = .ok page ∧
      IsPage (store.matching endInclusive request) page.entries page.hasMore ∧
        ∀ pair ∈ page.entries, PairFits pair := by
  have built : request.build handle = .ok (request.layout handle) :=
    KvScanRequest.build_eq_ok_iff.mpr ⟨fits, rfl⟩
  obtain ⟨page, pageFits, isPage, answered⟩ := honest turn _ _ built
  exact ⟨page, operation_of_reply isOpen built answered (decodeReply_layout pageFits), isPage,
    pageFits.entries⟩

/-- So does `scan_page`, which answers inverted bounds itself. -/
theorem scanPage_isPage {limit : Option Nat} (isOpen : handle.ensureOpen = .ok ())
    (honest : store.Honest endInclusive handle answer)
    (checked : KvScanRequest.checkLimit arguments.limit = .ok limit)
    (fits : (request arguments limit).Fits) (turn : Nat) :
    ∃ page, scanPage handle (answer turn) arguments = .ok page ∧
      IsPage (store.matching endInclusive (request arguments limit)) page.entries page.hasMore ∧
        ∀ pair ∈ page.entries, PairFits pair := by
  rw [scanPage_eq isOpen checked]
  split
  · next inverted =>
      refine ⟨_, rfl, ?_, nofun⟩
      rw [KvStore.matching_of_inverted inverted]
      exact isPage_nil
  · exact operation_isPage isOpen honest fits turn

theorem scanAll_of_last {turn fuel : Nat} {page : KvScanPage}
    (scanned : scanPage handle (answer turn) arguments = .ok page) (last : page.hasMore = false) :
    scanAll handle answer (fuel + 1) turn arguments =
      some { yielded := page.entries, raised := none } := by
  rw [scanAll, scanned]
  simp only [last]

theorem scanAll_of_more {turn fuel : Nat} {page : KvScanPage} {front : List KvPair} {last : KvPair}
    (scanned : scanPage handle (answer turn) arguments = .ok page) (more : page.hasMore = true)
    (entries : page.entries = front ++ [last]) :
    scanAll handle answer (fuel + 1) turn arguments =
      (scanAll handle answer fuel (turn + 1) { arguments with
        startKey := some last.key
        startExclusive := true }).map fun rest =>
        { rest with yielded := page.entries ++ rest.yielded } := by
  have found : page.entries.getLast? = some last := by
    rw [entries]
    exact List.getLast?_concat
  rw [scanAll, scanned]
  simp only [more, found]

/-- From any turn on, the pages have everything that the request asks for. -/
theorem scanAll_yields {limit : Option Nat} (isOpen : handle.ensureOpen = .ok ())
    (honest : store.Honest endInclusive handle answer)
    (checked : KvScanRequest.checkLimit arguments.limit = .ok limit)
    (fits : (request arguments limit).Fits) {fuel : Nat}
    (enough : (store.matching endInclusive (request arguments limit)).length < fuel)
    (turn : Nat) :
    scanAll handle answer fuel turn arguments = some {
      yielded := store.matching endInclusive (request arguments limit)
      raised := none } := by
  -- every page but the last leaves fewer pairs
  induction fuel generalizing arguments turn with
  | zero => exact absurd enough (Nat.not_lt_zero _)
  | succ fuel ih =>
      obtain ⟨page, scanned, isPage, pairsFit⟩ := scanPage_isPage isOpen honest checked fits turn
      cases more : page.hasMore with
      | false =>
          rw [more] at isPage
          rw [scanAll_of_last scanned more, isPage.eq_of_last]
      | true =>
          rw [more] at isPage
          obtain ⟨front, last, back, entries, split⟩ := isPage.exists_of_more
          have ordered := @KvStore.ordered_matching store endInclusive (request arguments limit)
          have resumed : store.matching endInclusive (request { arguments with
              startKey := some last.key
              startExclusive := true } limit) = back := by
            have member : last ∈ store.matching endInclusive (request arguments limit) := by
              rw [split]
              exact List.mem_append_right _ List.mem_cons_self
            rw [split] at ordered
            refine (KvStore.matching_resumed member).trans ?_
            rw [split]
            exact beyond_last (fun _ _ => KvScanRequest.Precedes.asymm) ordered
          have lastFits : BlobFits last.key :=
            (pairsFit last (entries ▸ List.mem_append_right _ (List.mem_singleton.mpr rfl))).1
          have fitsResumed : (request { arguments with
              startKey := some last.key
              startExclusive := true } limit).Fits :=
            ⟨fun key isKey => Option.mem_some_iff.mp isKey ▸ lastFits, fits.endKey, fits.limit⟩
          have shorter : back.length < fuel := by
            rw [split, List.length_append, List.length_cons] at enough
            omega
          have rest := @ih { arguments with startKey := some last.key, startExclusive := true }
            checked fitsResumed (by rw [resumed]; exact shorter) (turn + 1)
          rw [scanAll_of_more scanned more entries, rest, resumed, split, entries]
          simp

/-- What `scan` yields is what the request asks for. -/
theorem scan_yields {limit : Option Nat} (isOpen : handle.ensureOpen = .ok ())
    (honest : store.Honest endInclusive handle answer)
    (checked : KvScanRequest.checkLimit arguments.limit = .ok limit)
    (fits : (request arguments limit).Fits) {turn : Nat} {pairs : List KvPair}
    (scanned : scan handle (answer turn) arguments = .ok pairs) :
    pairs = store.matching endInclusive (request arguments limit) := by
  obtain ⟨page, paged, isPage, -⟩ := scanPage_isPage isOpen honest checked fits turn
  rw [scan, paged] at scanned
  cases more : page.hasMore with
  | false =>
      simp only [bind, Except.bind, more, Bool.false_eq_true, if_false] at scanned
      rw [more] at isPage
      exact (Except.ok.inj scanned).symm.trans isPage.eq_of_last
  | true =>
      simp only [bind, Except.bind, more, if_true] at scanned
      cases scanned

/-- `scan_all` ends after finitely many pages.  It has then yielded the pairs of
the store that are in the range, in scan order, as a scan does that is not cut
off. -/
structure ScansAll (store : KvStore) (endInclusive : Bool) (handle : KvScanHandle)
    (answer : Nat → Bytes → Except KvScanException Bytes) (arguments : KvScanArguments)
    (limit : Option Nat) (pairs : List KvPair) : Prop where
  ends : ∀ fuel, pairs.length < fuel →
    scanAll handle answer fuel 0 arguments = some { yielded := pairs, raised := none }
  complete : ∀ pair, pair ∈ pairs ↔ pair ∈ store.pairs ∧
    (request arguments limit).pastStart pair.key = true ∧
      (request arguments limit).withinEnd endInclusive pair.key = true
  ordered : pairs.Pairwise fun first second =>
    KvScanRequest.Precedes arguments.reverse first.key second.key
  once : pairs.Nodup
  unbounded : ∀ turn scanned, scan handle (answer turn) arguments = .ok scanned → scanned = pairs

end KvScan

namespace KvStore

variable {store : KvStore} {endInclusive : Bool} {handle : KvScanHandle}

/-- A page with so many of the pairs, as far as its count can be written. -/
def page (store : KvStore) (endInclusive : Bool) (request : KvScanRequest) (size : Nat) :
    KvScanPage :=
  let left := store.matching endInclusive request
  let size := max 1 (min size (256 ^ 4 - 1))
  { entries := left.take size, hasMore := decide (size < left.length) }

theorem isPage_page (request : KvScanRequest) (size : Nat) :
    IsPage (store.matching endInclusive request) (store.page endInclusive request size).entries
      (store.page endInclusive request size).hasMore :=
  ⟨_, Nat.le_max_left _ _, rfl, decide_eq_true_iff⟩

theorem fits_page (request : KvScanRequest) (size : Nat) :
    KvScan.Fits (store.page endInclusive request size) where
  count := by
    refine Nat.lt_of_le_of_lt (List.length_take_le _ _) ?_
    omega
  entries pair member :=
    store.fits pair (mem_matching.mp (List.mem_of_mem_take member)).1

/-- A broker that cuts its pages as `sizes` says. -/
def serve (store : KvStore) (endInclusive : Bool) (sizes : Nat → Nat) (turn : Nat)
    (payload : Bytes) : Except KvScanException Bytes :=
  match KvScanRequest.read payload with
  | .error error => .error (.response error)
  | .ok ((_, _, request), _) =>
      .ok (BigEndian.encode 1 0 ++ KvScan.layout (store.page endInclusive request (sizes turn)))

theorem honest_serve (sizes : Nat → Nat) :
    store.Honest endInclusive handle (store.serve endInclusive sizes) := by
  intro turn request payload built
  obtain ⟨fits, rfl⟩ := KvScanRequest.build_eq_ok_iff.mp built
  refine ⟨store.page endInclusive request (sizes turn), fits_page request _,
    isPage_page request _, ?_⟩
  rw [serve, KvScanRequest.read_layout handle fits]

end KvStore

namespace KvScan

variable {handle : KvScanHandle} {answer : Nat → Bytes → Except KvScanException Bytes}
  {store : KvStore} {endInclusive : Bool} {arguments : KvScanArguments}

/-- A limit that passes its check fits its field. -/
theorem lt_of_checkLimit {passed : Option KvScanLimit} {limit : Option Nat}
    (checked : KvScanRequest.checkLimit passed = .ok limit) :
    ∀ number ∈ limit, number < 256 ^ 4 := by
  unfold KvScanRequest.checkLimit at checked
  split at checked
  · cases checked
    nofun
  · next value =>
      split at checked
      · next within =>
          cases checked
          rintro number isLimit
          obtain rfl := Option.mem_some_iff.mp isLimit
          omega
      · cases checked
  · cases checked
  · cases checked

/-- With an honest broker, `scan_all` yields what it is asked for, whatever the
pages.  Its `startExclusive` is false at first. -/
theorem scansAll_of_honest {limit : Option Nat} (isOpen : handle.ensureOpen = .ok ())
    (checked : KvScanRequest.checkLimit arguments.limit = .ok limit)
    (startFits : ∀ key ∈ arguments.startKey, BlobFits key)
    (endFits : ∀ key ∈ arguments.endKey, BlobFits key)
    (honest : store.Honest endInclusive handle answer) :
    ScansAll store endInclusive handle answer arguments limit
      (store.matching endInclusive (request arguments limit)) := by
  have fits : (request arguments limit).Fits := ⟨startFits, endFits, lt_of_checkLimit checked⟩
  have ordered := @KvStore.ordered_matching store endInclusive (request arguments limit)
  exact {
    ends := fun _ enough => scanAll_yields isOpen honest checked fits enough 0
    complete := fun _ => KvStore.mem_matching
    ordered := ordered
    once := by
      refine ordered.imp ?_
      rintro pair _ precedes rfl
      exact precedes.asymm precedes
    unbounded := fun _ _ => scan_yields isOpen honest checked fits }

/-- A reverse scan over four pairs in pages of one and two. -/
theorem scansAll_of_two_pages :
    ∃ (store : KvStore) (handle : KvScanHandle) (pairs : List KvPair),
      pairs.map KvPair.key = [[5, 0], [5], [2]] ∧
        ScansAll store true handle (store.serve true (· + 1))
          { startKey := some [6], endKey := some [2], limit := some (.integer 2), reverse := true }
          (some 2) pairs := by
  refine ⟨{
    pairs := [⟨[1], []⟩, ⟨[2], [9]⟩, ⟨[5], []⟩, ⟨[5, 0], [9]⟩]
    sorted := by decide
    fits := by
      unfold PairFits
      decide }, {
    txId := 7
    route := "kv://r/a/items"
    generation := 1
    connectionGeneration := 1
    txId_lt := by decide
    route_fits := by decide +kernel }, _, ?_,
    scansAll_of_honest rfl rfl ?_ ?_ (KvStore.honest_serve _)⟩
  · decide +kernel
  · rintro key ⟨⟩
    decide
  · rintro key ⟨⟩
    decide

end KvScan

end FitzClient
