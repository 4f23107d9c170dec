import FitzClient.Audience
import FitzClient.AsyncSubscription
import FitzClient.Dictionary
import FitzClient.IndexedCells

/-!
# The audience of shared wires

A consumer that is open, and whose `aclose` is not under way, listens: nobody
but the owner of its wire will end it.  The registry and the notice client both
keep a table of wires by key, and both change it in few ways.  These lemmas say
what each way does to the audience of the table.
-/

namespace FitzClient

namespace AsyncSubscription

variable {Item : Type} {subscription : AsyncSubscription Item}

/-- The consumer is open, and no `aclose` of it is under way. -/
def Listening (subscription : AsyncSubscription Item) : Prop :=
  subscription.closed = false ∧ subscription.closing ≠ .waiting ∧
    subscription.closing ≠ .unsubscribing

instance (subscription : AsyncSubscription Item) : Decidable subscription.Listening :=
  inferInstanceAs (Decidable (_ ∧ _ ≠ _ ∧ _ ≠ _))

theorem Listening.of_fail {error : SubscriptionError}
    (listens : (subscription.fail error).Listening) : subscription.Listening := by
  unfold fail at listens
  split at listens
  · exact listens
  · cases listens.1

theorem Listening.of_finish (listens : subscription.finish.Listening) :
    subscription.Listening := by
  unfold finish at listens
  split at listens
  · exact listens
  · cases listens.1

theorem Listening.of_push {capacity : Nat} {item : Item}
    (listens : (subscription.push capacity item).1.Listening) : subscription.Listening := by
  unfold push at listens
  split at listens
  · exact listens
  · split at listens
    · exact listens.of_fail
    · exact listens

theorem Listening.of_read (listens : subscription.read.Listening) :
    subscription.Listening := by
  unfold read at listens
  split at listens
  · exact listens
  · cases listens.1
  · exact listens

theorem Listening.of_aclose (listens : subscription.aclose.Listening) :
    subscription.Listening := by
  unfold aclose at listens
  split at listens
  · exact (listens.2.1 rfl).elim
  · exact listens

theorem not_listening_fail (subscription : AsyncSubscription Item) (error : SubscriptionError) :
    ¬ (subscription.fail error).Listening := by
  intro listens
  have wasOpen := listens.of_fail.1
  simp [fail, wasOpen, Listening] at listens

theorem not_listening_finish (subscription : AsyncSubscription Item) :
    ¬ subscription.finish.Listening := by
  intro listens
  have wasOpen := listens.of_finish.1
  simp [finish, wasOpen, Listening] at listens

theorem not_listening_endClose (subscription : AsyncSubscription Item) :
    ¬ subscription.endClose.Listening := by
  intro listens
  have wasOpen : subscription.finish.closed = false := listens.1
  unfold finish at wasOpen
  split at wasOpen
  · next closed => simp [closed] at wasOpen
  · cases wasOpen

theorem not_listening_awaitUnsubscribe (subscription : AsyncSubscription Item) :
    ¬ subscription.awaitUnsubscribe.Listening :=
  fun listens => listens.2.2 rfl

/-- A consumer that refuses an item has ended. -/
theorem not_listening_of_refused {capacity : Nat} {item : Item}
    (refused : (subscription.push capacity item).2 = false) :
    ¬ (subscription.push capacity item).1.Listening := by
  unfold push at refused ⊢
  split
  · next ended =>
      intro listens
      have isOpen : subscription.closed = false := listens.1
      rw [isOpen] at ended
      cases ended
  · split
    · exact subscription.not_listening_fail .backpressure
    · next isOpen room => simp [isOpen, room] at refused

end AsyncSubscription

/-- The consumers that listen, by index and registration. -/
def listeners {Item : Type} (consumers : List (AsyncSubscription Item)) : Set (Nat × String) :=
  {member | ∃ consumer, consumers[member.1]? = some consumer ∧
    consumer.registration = member.2 ∧ consumer.Listening}

section listeners

variable {Item : Type} {consumers : List (AsyncSubscription Item)} {index : Nat}
  {member : Nat × String} {update : AsyncSubscription Item → AsyncSubscription Item}

theorem listeners_modify
    (named : ∀ consumer, (update consumer).registration = consumer.registration)
    (reflects : ∀ consumer, (update consumer).Listening → consumer.Listening)
    (listens : member ∈ listeners (consumers.modify index update)) :
    member ∈ listeners consumers := by
  obtain ⟨consumer, found, name, isListening⟩ := listens
  obtain ⟨earlier, foundEarlier, rfl⟩ := getElem?_modify_eq_some.mp found
  refine ⟨earlier, foundEarlier, ?_⟩
  split at name
  · next touched =>
      rw [if_pos touched] at isListening
      exact ⟨(named earlier).symm.trans name, reflects _ isListening⟩
  · next spared =>
      rw [if_neg spared] at isListening
      exact ⟨name, isListening⟩

theorem not_mem_listeners_modify (ends : ∀ consumer, ¬ (update consumer).Listening)
    (listens : member ∈ listeners (consumers.modify index update)) : member.1 ≠ index := by
  rintro rfl
  obtain ⟨consumer, found, -, isListening⟩ := listens
  obtain ⟨earlier, -, rfl⟩ := getElem?_modify_eq_some.mp found
  rw [if_pos rfl] at isListening
  exact ends earlier isListening

theorem listeners_mapIdx {update : Nat → AsyncSubscription Item → AsyncSubscription Item}
    (named : ∀ index consumer, (update index consumer).registration = consumer.registration)
    (listens : member ∈ listeners (consumers.mapIdx update)) :
    ∃ consumer, consumers[member.1]? = some consumer ∧ consumer.registration = member.2 ∧
      (update member.1 consumer).Listening := by
  obtain ⟨consumer, found, name, isListening⟩ := listens
  rw [List.getElem?_mapIdx] at found
  obtain ⟨earlier, foundEarlier, rfl⟩ := Option.map_eq_some_iff.mp found
  exact ⟨earlier, foundEarlier, (named _ _).symm.trans name, isListening⟩

theorem listeners_concat {fresh : AsyncSubscription Item}
    (listens : member ∈ listeners (consumers ++ [fresh])) :
    member ∈ listeners consumers ∨
      member.1 = consumers.length ∧ fresh.registration = member.2 := by
  obtain ⟨consumer, found, name, isListening⟩ := listens
  rcases getElem?_concat_eq_some.mp found with old | ⟨isNew, rfl⟩
  · exact Or.inl ⟨consumer, old, name, isListening⟩
  · exact Or.inr ⟨isNew, name⟩

/-- Items are pushed to some of the consumers. -/
theorem listeners_pushed {targets : List Nat} {capacity : Nat} {item : Item}
    (listens : member ∈ listeners (consumers.mapIdx fun index consumer =>
      if index ∈ targets then (consumer.push capacity item).1 else consumer)) :
    member ∈ listeners consumers := by
  have named (index : Nat) (consumer : AsyncSubscription Item) :
      (if index ∈ targets then (consumer.push capacity item).1 else consumer).registration =
        consumer.registration := by
    split
    · exact consumer.registration_push capacity item
    · rfl
  obtain ⟨consumer, found, name, isListening⟩ := listeners_mapIdx named listens
  refine ⟨consumer, found, name, ?_⟩
  split at isListening
  · exact isListening.of_push
  · exact isListening

/-- Consumers that are failed or finished listen no more. -/
theorem listeners_ended {targets : List Nat} {error : Option SubscriptionError}
    (listens : member ∈ listeners (consumers.mapIdx fun index consumer =>
      if index ∈ targets then
        match error with
        | none => consumer.finish
        | some error => consumer.fail error
      else
        consumer)) :
    member ∈ listeners consumers ∧ member.1 ∉ targets := by
  obtain ⟨consumer, found, name, isListening⟩ := listeners_mapIdx (fun index consumer => by
    split
    · cases error with
      | none => exact consumer.registration_finish
      | some error => exact consumer.registration_fail error
    · rfl) listens
  split at isListening
  · cases error with
    | none => exact (consumer.not_listening_finish isListening).elim
    | some error => exact (consumer.not_listening_fail error isListening).elim
  · next spared => exact ⟨⟨consumer, found, name, isListening⟩, spared⟩

end listeners

/-- The audience of a table of wires: the consumers on the wire of a key attend
it. -/
def audienceOf {Item : Type} (table : Dictionary String Nat) (seats : Nat → List Nat)
    (consumers : List (AsyncSubscription Item)) (parting : Option String) :
    Audience String (Nat × String) where
  listening := listeners consumers
  attending key := {member | ∃ wire, table.lookup key = some wire ∧ member.1 ∈ seats wire}
  parting := {key | parting = some key}

section audienceOf

variable {Item : Type} {table : Dictionary String Nat} {seats later : Nat → List Nat}
  {consumers others : List (AsyncSubscription Item)} {parting next : Option String}
  {key : String} {wire : Nat}

/-- The consumers and the wires change, but not for a consumer that goes on
listening. -/
theorem thins_of_seats (listening : listeners others ⊆ listeners consumers)
    (seated : ∀ member ∈ listeners others, ∀ wire,
      member.1 ∈ later wire ↔ member.1 ∈ seats wire) :
    (audienceOf table seats consumers parting).Thins (audienceOf table later others parting) where
  listening := listening
  attending member listens _ := exists_congr fun wire =>
    and_congr_right fun _ => seated member listens wire
  parting _ := Or.inl

theorem thins_of_listeners (listening : listeners others ⊆ listeners consumers) :
    (audienceOf table seats consumers parting).Thins (audienceOf table seats others parting) :=
  thins_of_seats listening fun _ _ _ => Iff.rfl

theorem thins_release :
    (audienceOf table seats consumers parting).Thins (audienceOf table seats consumers none) where
  listening := Set.Subset.rfl
  attending _ _ _ := Iff.rfl
  parting _ := nofun

/-- A key is about to go whose wire is empty. -/
theorem thins_part (empty : ∀ wire, table.lookup key = some wire → seats wire = []) :
    (audienceOf table seats consumers parting).Thins
      (audienceOf table seats consumers (some key)) where
  listening := Set.Subset.rfl
  attending _ _ _ := Iff.rfl
  parting other parts := by
    obtain rfl : key = other := Option.some.inj parts
    refine Or.inr fun member _ attends => ?_
    obtain ⟨wire, leads, seated⟩ := attends
    rw [empty wire leads] at seated
    cases seated

theorem thins_erase (deserted : (audienceOf table seats consumers parting).Deserted key) :
    (audienceOf table seats consumers parting).Thins
      (audienceOf (table.erase key) seats consumers parting) where
  listening := Set.Subset.rfl
  attending member listens other := by
    constructor
    · rintro ⟨wire, leads, seated⟩
      exact ⟨wire, (Dictionary.lookup_erase_eq_some.mp leads).2, seated⟩
    · rintro ⟨wire, leads, seated⟩
      refine ⟨wire, Dictionary.lookup_erase_eq_some.mpr ⟨?_, leads⟩, seated⟩
      rintro rfl
      exact deserted member listens ⟨wire, leads, seated⟩
  parting _ := Or.inl

theorem thins_insert (absent : table.lookup key = none) (empty : seats wire = []) :
    (audienceOf table seats consumers parting).Thins
      (audienceOf (table.insert key wire) seats consumers parting) where
  listening := Set.Subset.rfl
  attending member _ other := by
    constructor
    · rintro ⟨found, leads, seated⟩
      rcases Dictionary.lookup_insert_eq_some.mp leads with ⟨-, rfl⟩ | ⟨-, old⟩
      · rw [empty] at seated
        cases seated
      · exact ⟨found, old, seated⟩
    · rintro ⟨found, leads, seated⟩
      refine ⟨found, Dictionary.lookup_insert_eq_some.mpr (Or.inr ⟨?_, leads⟩), seated⟩
      rintro rfl
      rw [absent] at leads
      cases leads
  parting _ := Or.inl

/-- The table is emptied, and whoever attended a key is ended. -/
theorem thins_clear (listening : listeners others ⊆ listeners consumers)
    (ended : ∀ member ∈ listeners others, ∀ key wire, table.lookup key = some wire →
      member.1 ∉ seats wire) :
    (audienceOf table seats consumers parting).Thins (audienceOf ∅ seats others parting) where
  listening := listening
  attending member listens key := by
    constructor
    · rintro ⟨wire, leads, -⟩
      simp at leads
    · rintro ⟨wire, leads, seated⟩
      exact (ended member listens key wire leads seated).elim
  parting _ := Or.inl

/-- To end whoever attends a key is to end all who listen. -/
theorem listeners_eq_empty
    (settled : (audienceOf table seats consumers parting).Settled Prod.snd)
    (listening : listeners others ⊆ listeners consumers)
    (ended : ∀ member ∈ listeners others, ∀ key wire, table.lookup key = some wire →
      member.1 ∉ seats wire) : listeners others = ∅ := by
  refine Set.eq_empty_of_forall_notMem fun member listens => ?_
  obtain ⟨wire, leads, seated⟩ := settled.attends member (listening listens)
  exact ended member listens _ wire leads seated

/-- A new consumer, the last one, takes a seat on the wire of its key. -/
theorem joins_of_seats {fresh : AsyncSubscription Item}
    (leads : table.lookup fresh.registration = some wire)
    (keeps : ∀ other, ∀ index ∈ seats other, index ∈ later other)
    (seated : consumers.length ∈ later wire) :
    (audienceOf table seats consumers none).Joins Prod.snd
      (audienceOf table later (consumers ++ [fresh]) none) where
  attends member listens := by
    rcases listeners_concat listens with old | ⟨isNew, name⟩
    · refine Or.inr ⟨old, ?_⟩
      rintro other ⟨found, leadsOther, seatedOther⟩
      exact ⟨found, leadsOther, keeps found member.1 seatedOther⟩
    · refine Or.inl ⟨wire, name ▸ leads, ?_⟩
      rw [isNew]
      exact seated
  parting := Set.eq_empty_of_forall_notMem nofun

end audienceOf

end FitzClient
