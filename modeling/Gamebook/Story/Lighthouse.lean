import Gamebook.Story.Definition

/-!
The story that comes with the game.
-/
namespace Gamebook

namespace Story.Lighthouse

def effect (type target operation : String) (value : Value) : EffectDef :=
  ⟨type, target, operation, value, []⟩

def choice (id text target : String) : StoryChoice := ⟨id, text, target, [], [], [], []⟩

def place (id key text : String) (choices : List StoryChoice) : StoryNode :=
  ⟨id, text, some key, none, choices, [], false⟩

def ending (id key text : String) : StoryNode := ⟨id, text, some key, none, [], [], true⟩

def lockCheck : RollRequirement := ⟨"dexterity", 12, none⟩

def shore : StoryNode :=
  { place "lh_shore" "shore"
      ("Storm clouds gather over the cove. The lighthouse on the cliff has gone dark, and a "
        ++ "shipwreck groans on the rocks below.")
      [{ choice "search_wreck" "Search the wreckage" "lh_wreck" with
          effects := [effect "wallet" "gold" "add" (.int 15),
            effect "inventory" "rope" "add" (.int 1)] },
        choice "go_to_door" "Walk straight to the lighthouse" "lh_door"] with
    mediaRef := some "images/shore.png" }

def wreck : StoryNode :=
  place "lh_wreck" "wreck"
    "Among the splintered crates you find a purse of coins and a coil of sound rope."
    [{ choice "climb_dunes" "Climb back up the dunes" "lh_door" with
        effects := [effect "flag" "searched_wreck" "set" (.bool true)] }]

def holdsRope : ConditionDef := .ofLogic (.object [("hasItem", .text "rope")])

def paysToll : ConditionDef :=
  .ofLogic (.object [(">=", .list [.object [("var", .text "wallets.gold")], .int 10])])

def door : StoryNode :=
  { place "lh_door" "door"
      ("The iron door is locked. A toll box hangs beside it, and the wall above is rough enough to "
        ++ "climb with help.")
      [{ choice "pick_lock" "Pick the rusted lock" "lh_stairs" with
          effects := [effect "stat" "dexterity" "add" (.int 1)]
          rollRequirements := [lockCheck] },
        { choice "climb_wall" "Climb the wall with your rope" "lh_lamp_room" with
          conditions := [holdsRope]
          effects := [effect "inventory" "rope" "subtract" (.int 1)] },
        { choice "pay_toll" "Pay the keeper's toll" "lh_stairs" with
          conditions := [paysToll]
          effects := [effect "wallet" "gold" "subtract" (.int 10)] }] with
    diceChecks := [lockCheck] }

def exhaustion : EffectDef :=
  { effect "status_effect" "exhausted" "add" (.int 1) with
    metadata := [("duration", .int 2), ("source", .text "stairs")] }

def stairs : StoryNode :=
  place "lh_stairs" "stairs" "A spiral staircase winds up into the dark."
    [{ choice "climb_stairs" "Climb on" "lh_lamp_room" with effects := [exhaustion] }]

def lampRoom : StoryNode :=
  place "lh_lamp_room" "lamp_room"
    "The great lamp sits cold. Far out at sea, a ship's light blinks in the storm."
    [choice "relight" "Relight the lamp" "lh_ending_light",
      choice "leave_dark" "Leave it dark" "lh_ending_dark"]

def light : StoryNode :=
  ending "lh_ending_light" "ending_light"
    "The beam sweeps the water and the ship turns safely away from the rocks."

def dark : StoryNode :=
  ending "lh_ending_dark" "ending_dark" "You watch the ship's light vanish into the storm."

def story : Story where
  id := "lighthouse"
  title := "The Keeper's Lighthouse"
  start := shore.id
  nodes := [shore, wreck, door, stairs, lampRoom, light, dark].map fun node => (node.id, node)

end Story.Lighthouse

/-- The library without a story file of its own. -/
def Library.bundled : Library := ⟨[(Story.Lighthouse.story.id, Story.Lighthouse.story)]⟩

end Gamebook
