import Mathlib.Data.List.Infix
import PairwiseId.Proofs.Mapper.Types
import PairwiseId.Proofs.Text.Split
import PairwiseId.Proofs.Text.Trim
import PairwiseId.PseudonymList

/- The clients of a list stand in one text with the separator between them. They are read back
   from it as long as none but the last of them ends with a number sign, which the separator
   would take over. -/
namespace PairwiseId.PseudonymList

set_option autoImplicit false

structure PlainId (client : String) : Prop where
  present : client ≠ ""
  first : ∀ c, client.toList.head? = some c → Text.isBlankChar c = false
  last : ∀ c, client.toList.getLast? = some c → Text.isBlankChar c = false
  unseparated : ¬ separator.toList <:+: client.toList

-- The room that pieces take in a text, each with a separator behind it.
def room : List (List Char) → Nat
  | [] => 0
  | piece :: pieces => piece.length + 2 + room pieces

theorem room_intercalate (pieces : List (List Char)) (present : pieces ≠ []) :
    (['#', '#'].intercalate pieces).length + 2 = room pieces := by
  induction pieces with
  | nil => exact absurd rfl present
  | cons piece later ih =>
      cases later with
      | nil => simp [room]
      | cons next rest =>
          have remaining := ih (List.cons_ne_nil next rest)
          rw [room, ← remaining, List.intercalate_cons_cons, List.length_append, List.length_append]
          simp only [List.length_cons, List.length_nil]
          omega

section Reduced

variable {f : List Char → List Char}

theorem room_reduced (shrinks : ∀ piece, (f piece).Sublist piece) (kept pieces : List (List Char))
    (part : kept.Sublist (pieces.map f)) : room kept ≤ room pieces := by
  induction pieces generalizing kept with
  | nil => simp [List.sublist_nil.mp part]
  | cons piece rest ih =>
      rw [room]
      cases part with
      | cons _ later =>
          have bound := ih kept later
          omega
      | cons_cons _ later =>
          have bound := ih _ later
          have shorter := (shrinks piece).length_le
          rw [room]
          omega

-- If the pieces that are left need as much room as all of them did, none was dropped and none
-- became shorter.
theorem reduced_eq (shrinks : ∀ piece, (f piece).Sublist piece) (kept pieces : List (List Char))
    (part : kept.Sublist (pieces.map f)) (full : room pieces ≤ room kept) : kept = pieces := by
  induction pieces generalizing kept with
  | nil => exact List.sublist_nil.mp part
  | cons piece rest ih =>
      rw [room] at full
      cases part with
      | cons _ later =>
          have bound := room_reduced shrinks kept rest later
          omega
      | @cons_cons reduced _ _ later =>
          rw [room] at full
          have bound := room_reduced shrinks reduced rest later
          have shorter := (shrinks piece).length_le
          rw [(shrinks piece).eq_of_length (by omega), ih reduced later (by omega)]

end Reduced

theorem without_repeats_sublist (texts : List String) : (withoutRepeats texts).Sublist texts := by
  induction texts with
  | nil => exact .slnil
  | cons text rest ih => exact (List.filter_sublist.trans ih).cons_cons text

theorem without_repeats_distinct (texts : List String) (distinct : texts.Nodup) : withoutRepeats texts = texts := by
  induction texts with
  | nil => rfl
  | cons text rest ih =>
      obtain ⟨absent, others⟩ := List.nodup_cons.mp distinct
      rw [withoutRepeats, ih others, List.filter_eq_self.mpr fun other member => ?_]
      simpa using fun same : other = text => absent (same ▸ member)

def trimmed (piece : List Char) : List Char := (Text.trim (String.ofList piece)).toList

theorem trimmed_sublist (piece : List Char) : (trimmed piece).Sublist piece := by
  simpa [trimmed] using Text.trim_sublist (String.ofList piece)

theorem clients_sublist (text : String) :
    ((clientsOf text).map String.toList).Sublist ((Text.splitAtDouble '#' text.toList).map trimmed) := by
  have kept : (clientsOf text).Sublist
      ((Text.splitAtDouble '#' text.toList).map fun piece => Text.trim (String.ofList piece)) :=
    (without_repeats_sublist _).trans List.filter_sublist
  have characters := kept.map String.toList
  rw [List.map_map] at characters
  exact characters

theorem clients_of_pieces (text : String) (clients : List String) (distinct : clients.Nodup)
    (plain : ∀ client ∈ clients, PlainId client)
    (pieces : Text.splitAtDouble '#' text.toList = clients.map String.toList) : clientsOf text = clients := by
  have texts : (clients.map String.toList).map (fun piece => Text.trim (String.ofList piece)) = clients := by
    rw [List.map_map]
    refine (List.map_congr_left fun client member => ?_).trans (List.map_id clients)
    have own := plain client member
    simp [Text.trim_visible client own.first own.last]
  have present : clients.filter (· != "") = clients :=
    List.filter_eq_self.mpr fun client member => by simpa using (plain client member).present
  rw [clientsOf, pieces]
  simp only [texts, present]
  exact without_repeats_distinct clients distinct

-- The text is as long as the clients with the separators between them, so they are all that the
-- pieces of it hold.
theorem pieces_of_clients (text : String) (clients : List String) (present : clients ≠ [])
    (joined : text.toList = ['#', '#'].intercalate (clients.map String.toList))
    (back : clientsOf text = clients) : Text.splitAtDouble '#' text.toList = clients.map String.toList := by
  have part := clients_sublist text
  rw [back] at part
  have given := room_intercalate (clients.map String.toList) (by simpa using present)
  have taken := room_intercalate _ (Text.split_double_ne_nil '#' text.toList)
  rw [Text.intercalate_split_double, joined, given, ← joined] at taken
  exact (reduced_eq trimmed_sublist _ _ part taken.ge).symm

theorem joined_read_iff (clients : List String) (distinct : clients.Nodup)
    (plain : ∀ client ∈ clients, PlainId client) :
    clientsOf (separator.intercalate clients) = clients ↔
      ∀ client ∈ clients.dropLast, client.toList.getLast? ≠ some '#' := by
  by_cases empty : clients = []
  · subst empty
    exact ⟨fun _ _ member => (List.not_mem_nil member).elim, fun _ => by decide⟩
  have joined : (separator.intercalate clients).toList = ['#', '#'].intercalate (clients.map String.toList) :=
    String.toList_intercalate
  have ends : (∀ client ∈ clients.dropLast, client.toList.getLast? ≠ some '#') ↔
      ∀ piece ∈ (clients.map String.toList).dropLast, piece.getLast? ≠ some '#' := by
    rw [← List.map_dropLast, List.forall_mem_map]
  rw [ends]
  constructor
  · intro back
    rw [← pieces_of_clients _ clients empty joined back]
    exact Text.split_double_ends '#' _
  · intro apart
    refine clients_of_pieces _ clients distinct plain ?_
    rw [joined]
    refine Text.split_double_intercalate '#' _ (by simpa using empty) (fun piece member => ?_) apart
    obtain ⟨client, listed, rfl⟩ := List.mem_map.mp member
    exact (plain client listed).unseparated

theorem clients_decoded_iff (config : MapperConfig) (clients : List String) (distinct : clients.Nodup)
    (plain : ∀ client ∈ clients, PlainId client) :
    (ofConfig (config.put OptionKey.clients (separator.intercalate clients))).clients = clients ↔
      ∀ client ∈ clients.dropLast, client.toList.getLast? ≠ some '#' := by
  rw [ofConfig, MapperConfig.get?_put_self, Option.getD_some]
  exact joined_read_iff clients distinct plain

theorem plain_id_iff (client : String) :
    PlainId client ↔ client ≠ "" ∧ client.toList.head?.all (!Text.isBlankChar ·) = true ∧
      client.toList.getLast?.all (!Text.isBlankChar ·) = true ∧ ¬ separator.toList <:+: client.toList := by
  simp only [Option.all_eq_true, Bool.not_eq_true']
  exact ⟨fun id => ⟨id.present, id.first, id.last, id.unseparated⟩,
    fun ⟨present, first, last, unseparated⟩ => ⟨present, first, last, unseparated⟩⟩

instance (client : String) : Decidable (PlainId client) := decidable_of_iff' _ (plain_id_iff client)

-- Single number signs do no harm in front, inside and at the very end.
def markedIds : List String := ["#web", "a b", "c#d", "e#"]

theorem marked_ids_decoded :
    markedIds.Nodup ∧ (∀ client ∈ markedIds, PlainId client) ∧
      (ofConfig ((sampleMapper 0 mapperType []).put OptionKey.clients "#web##a b##c#d##e#")).clients = markedIds := by
  have distinct : markedIds.Nodup := by decide
  have plain : ∀ client ∈ markedIds, PlainId client := by decide +kernel
  have joined : separator.intercalate markedIds = "#web##a b##c#d##e#" := by decide +kernel
  have decoded :=
    (clients_decoded_iff (sampleMapper 0 mapperType []) markedIds distinct plain).mpr (by decide +kernel)
  rw [joined] at decoded
  exact ⟨distinct, plain, decoded⟩

-- The same text stands for two lists, so no other way of reading it would do.
theorem last_mark_moves_on :
    (¬ ∀ (config : MapperConfig) (clients : List String), clients.Nodup →
        (∀ client ∈ clients, PlainId client) →
        (ofConfig (config.put OptionKey.clients (separator.intercalate clients))).clients = clients) ∧
      separator.intercalate ["a#", "b"] = separator.intercalate ["a", "#b"] ∧
      (ofConfig ((sampleMapper 0 mapperType []).put OptionKey.clients "a###b")).clients = ["a", "#b"] := by
  refine ⟨fun decodes => ?_, by decide +kernel, by decide +kernel⟩
  have back := decodes (sampleMapper 0 mapperType []) ["a#", "b"] (by decide) (by decide +kernel)
  revert back
  decide +kernel

end PairwiseId.PseudonymList
