import Gamebook.Proofs.Play.Sound
import Gamebook.Proofs.State.Saving
import Gamebook.Proofs.Story.Plain
import Gamebook.Proofs.Value.Shown

/-!
A state that a save can hold stays one while it is played on in plain stories, whatever effects do to
it; only its numbers can outgrow the range of doubles.
-/
namespace Gamebook

theorem Dict.Rewritten.plain {name : String} {allowed : Value → Prop} {table next : Dict}
    (rewritten : table.Rewritten name allowed next) (plain : table.Plain)
    (named : Text.isPlain name = true) (given : ∀ value, allowed value → value.isPlain = true) :
    next.Plain := by
  cases rewritten with
  | untouched => exact plain
  | erased => exact plain.erase (.text name)
  | written ok => exact plain.insert named (given _ ok)

namespace Effect
variable {effect : EffectDef} {contents after : GameState.Contents}

theorem sourceOf_plain (plain : effect.Plain) {source : Value} (kept : sourceOf effect = .ok source) :
    source.isPlain = true := by
  have field := Value.isPlain_field plain.metadata "source"
  unfold sourceOf at kept
  split at kept
  · cases kept
    rfl
  · split at kept <;> cases kept
    exact Value.isPlain_asText field

theorem statusOf_plain (plain : effect.Plain) {status : StatusEffect}
    (made : statusOf effect = .ok status) : status.Plain := by
  obtain ⟨amount, _, rest⟩ := bind_eq_ok.mp made
  obtain ⟨duration, _, rest⟩ := bind_eq_ok.mp rest
  obtain ⟨source, kept, rest⟩ := bind_eq_ok.mp rest
  obtain rfl := pure_eq_ok.mp rest
  exact ⟨⟨effect.target, rfl, plain.target⟩, sourceOf_plain plain kept⟩

theorem Alters.storable (alters : Alters effect contents after) (plain : effect.Plain)
    (storable : contents.Storable) : after.Storable := by
  have sound := alters.sound storable.toSound
  have named := plain.target.plain
  cases alters with
  | intro wallets inventory stats flags effects balances quantities scores marks statuses =>
    have whole {least : Int} (value : Value) : value.IsWhole least → value.isPlain = true := by
      rintro ⟨_, rfl, _⟩
      rfl
    have given (value : Value) (source : value = effect.value ∨
        ∃ number : Number, value = number.toValue ∧ number.Settled) : value.isPlain = true := by
      rcases source with rfl | ⟨number, rfl, settled⟩
      · exact plain.value
      · exact (Snapshot.isPlain_number settled).1
    exact { storable with
      toSound := sound
      plainStats := scores.plain storable.plainStats named whole
      plainWallets := balances.plain storable.plainWallets named whole
      plainInventory := quantities.plain storable.plainInventory named whole
      plainFlags := marks.plain storable.plainFlags named given
      plainEffects :=
        statuses.members (·.Plain) storable.plainEffects fun _ made => statusOf_plain plain made }

theorem Altered.storable {effects : List EffectDef} (batch : Altered contents effects after)
    (plain : ∀ effect ∈ effects, effect.Plain) (storable : contents.Storable) : after.Storable := by
  refine batch.keep (·.Storable) ?_ storable
  intro effect member before next storable alters
  exact alters.storable (plain effect member) storable

end Effect

theorem withVisit_plain {visits : List Value} {name : String} (named : Text.isPlain name = true)
    (plain : ∀ visit ∈ visits, visit.isPlain = true) :
    ∀ visit ∈ withVisit visits (.text name), visit.isPlain = true := by
  unfold withVisit
  split
  · exact plain
  · intro visit member
    rcases List.mem_append.mp member with old | new
    · exact plain visit old
    · exact List.mem_singleton.mp new ▸ named

theorem Library.choice_plain {library : Library} (plain : library.Plain) {name : String}
    {node : StoryNode} (found : library.source.node? name = some node) :
    ∀ choice ∈ node.choices, choice.Plain := by
  obtain ⟨entry, member, _, rfl⟩ : ∃ entry ∈ library.nodes, (entry.1 == name) = true ∧
      entry.2 = node := Assoc.mem_of_get? found
  obtain ⟨story, listed, inside⟩ := List.mem_flatMap.mp member
  exact (plain story listed).choices entry inside

theorem Navigator.Moves.storable {navigator : Navigator} {library : Library} {now : Timestamp}
    {contents next : GameState.Contents} (plays : navigator.stories = library.source)
    (linked : library.Linked) (plain : library.Plain) (aware : now.IsAware)
    (storable : contents.Storable) (moves : navigator.Moves now contents next) : next.Storable := by
  have sound := moves.sound storable.toSound
  cases moves with
  | intro node target place choice applied altered lasting here chosen leads alters offered ticked =>
    have standing := node_text_eq_ok.mp here
    have led := node_text_eq_ok.mp leads
    rw [plays] at standing led
    have worded := library.choice_plain plain standing choice (List.mem_of_getElem? chosen)
    have target_eq := Library.id_of_node? linked led
    have node_eq := Library.id_of_node? linked standing
    have kept : altered.Storable :=
      alters.storable (fun effect member => worded.effects effect (offered.subset member)) storable
    refine { kept with
      toSound := sound
      node := target_eq ▸ worded.target
      plainVisits := withVisit_plain (target_eq ▸ worded.target.plain) storable.plainVisits
      plainHistory := fun record member => ?_
      plainEffects := fun effect member => ?_
      updated := aware }
    · rcases List.mem_append.mp member with old | new
      · exact storable.plainHistory record old
      · obtain rfl := List.mem_singleton.mp new
        exact ⟨⟨_, rfl, node_eq ▸ storable.node⟩, worded.text, now, rfl, aware⟩
    · obtain ⟨source, inside, lasts⟩ := StatusEffect.mem_tickAll ticked member
      have old := kept.plainEffects source inside
      rw [StatusEffect.tick_eq lasts]
      exact ⟨old.type, old.source⟩

end Gamebook
