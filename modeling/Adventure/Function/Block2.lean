import Adventure.Function.Builtin

/-!
# Script functions 200 to 299

Number, name, what it does, return type, parameter types, and the defaults of the last parameters.

See section 10.9 of the specification.
-/

namespace Adventure.Function

def block2 : List (Bridge.Entry Builtin) := [
  ⟨200, "GetObjectByTag", ⟨.object, [.string, .int]⟩, [.int 0], .query .objectByTag⟩,
  ⟨201, "AdjustAlignment", ⟨.void, [.object, .int, .int, .int]⟩, [.int 1], .placeholder⟩,
  ⟨202, "ActionWait", ⟨.void, [.float]⟩, [], .placeholder⟩,
  ⟨203, "SetAreaTransitionBMP", ⟨.void, [.int, .string]⟩, [.string ""], .placeholder⟩,
  ⟨204, "ActionStartConversation", ⟨.void, [.object, .string, .int, .int]⟩,
    [.string "", .int 0, .int 1], .change .startConversation⟩,
  ⟨205, "ActionPauseConversation", ⟨.void, []⟩, [], .placeholder⟩,
  ⟨206, "ActionResumeConversation", ⟨.void, []⟩, [], .placeholder⟩,
  ⟨207, "EffectBeam", ⟨.engine, [.int, .object, .int, .int]⟩, [.int 0], .placeholder⟩,
  ⟨208, "GetReputation", ⟨.int, [.object, .object]⟩, [], .placeholder⟩,
  ⟨209, "AdjustReputation", ⟨.void, [.object, .object, .int]⟩, [], .placeholder⟩,
  ⟨210, "GetSittingCreature", ⟨.object, [.object]⟩, [], .placeholder⟩,
  ⟨211, "GetGoingToBeAttackedBy", ⟨.object, [.object]⟩, [], .placeholder⟩,
  ⟨212, "EffectSpellResistanceIncrease", ⟨.engine, [.int]⟩, [], .placeholder⟩,
  ⟨213, "GetLocation", ⟨.engine, [.object]⟩, [], .query .location⟩,
  ⟨214, "ActionJumpToLocation", ⟨.void, [.engine]⟩, [], .deed .jumpToLocation⟩,
  ⟨215, "Location", ⟨.engine, [.object, .vector, .float]⟩, [], .query .makeLocation⟩,
  ⟨216, "ApplyEffectAtLocation", ⟨.void, [.int, .engine, .engine, .float]⟩,
    [.float 0], .placeholder⟩,
  ⟨217, "GetIsPC", ⟨.int, [.object]⟩, [], .query .isPc⟩,
  ⟨218, "FeetToMeters", ⟨.float, [.float]⟩, [], .number (.scaled 0x3e9c0ebf)⟩,
  ⟨219, "YardsToMeters", ⟨.float, [.float]⟩, [], .number (.scaled 0x3f6a161e)⟩,
  ⟨220, "ApplyEffectToObject", ⟨.void, [.int, .engine, .object, .float]⟩, [.float 0], .placeholder⟩,
  ⟨221, "SpeakString", ⟨.void, [.string, .int]⟩, [.int 0], .change .speak⟩,
  ⟨222, "GetSpellTargetLocation", ⟨.engine, []⟩, [], .placeholder⟩,
  ⟨223, "GetPositionFromLocation", ⟨.vector, [.engine]⟩, [], .query .locationPosition⟩,
  ⟨224, "GetAreaFromLocation", ⟨.object, [.engine]⟩, [], .query .locationArea⟩,
  ⟨225, "GetFacingFromLocation", ⟨.float, [.engine]⟩, [], .query .locationFacing⟩,
  ⟨226, "GetNearestCreatureToLocation",
    ⟨.object, [.int, .int, .engine, .int, .int, .int, .int, .int]⟩,
    [.int 1, .int (-1), .int (-1), .int (-1), .int (-1)], .placeholder⟩,
  ⟨227, "GetNearestObject", ⟨.object, [.int, .object, .int]⟩,
    [.int 32767, .object .invalid, .int 1], .query .nearestObject⟩,
  ⟨228, "GetNearestObjectToLocation", ⟨.object, [.int, .engine, .int]⟩,
    [.int 1], .query .nearestToLocation⟩,
  ⟨229, "GetNearestObjectByTag", ⟨.object, [.string, .object, .int]⟩,
    [.object .invalid, .int 1], .query .nearestByTag⟩,
  ⟨230, "IntToFloat", ⟨.float, [.int]⟩, [], .number .ofInt⟩,
  ⟨231, "FloatToInt", ⟨.int, [.float]⟩, [], .number .toInt⟩,
  ⟨232, "StringToInt", ⟨.int, [.string]⟩, [], .text .toInt⟩,
  ⟨233, "StringToFloat", ⟨.float, [.string]⟩, [], .text .toFloat⟩,
  ⟨234, "ActionCastSpellAtLocation", ⟨.void, [.int, .engine, .int, .int, .int, .int]⟩,
    [.int 255, .int 0, .int 0, .int 0], .placeholder⟩,
  ⟨235, "GetIsEnemy", ⟨.int, [.object, .object]⟩, [.object .invalid], .placeholder⟩,
  ⟨236, "GetIsFriend", ⟨.int, [.object, .object]⟩, [.object .invalid], .placeholder⟩,
  ⟨237, "GetIsNeutral", ⟨.int, [.object, .object]⟩, [.object .invalid], .placeholder⟩,
  ⟨238, "GetPCSpeaker", ⟨.object, []⟩, [], .query .pcSpeaker⟩,
  ⟨239, "GetStringByStrRef", ⟨.string, [.int, .int]⟩, [.int 0], .query .talkString⟩,
  ⟨240, "ActionSpeakStringByStrRef", ⟨.void, [.int, .int]⟩, [.int 0], .placeholder⟩,
  ⟨241, "DestroyObject", ⟨.void, [.object, .float]⟩, [.float 0], .change .destroyObject⟩,
  ⟨242, "GetModule", ⟨.object, []⟩, [], .query .module⟩,
  ⟨243, "CreateObject", ⟨.object, [.int, .string, .engine, .int, .string]⟩,
    [.int 0, .string ""], .change .createObject⟩,
  ⟨244, "EventSpellCastAt", ⟨.engine, [.object, .int, .int]⟩, [.int 1], .placeholder⟩,
  ⟨245, "GetLastSpellCaster", ⟨.object, []⟩, [], .placeholder⟩,
  ⟨246, "GetLastSpell", ⟨.int, []⟩, [], .placeholder⟩,
  ⟨247, "GetUserDefinedEventNumber", ⟨.int, []⟩, [], .placeholder⟩,
  ⟨248, "GetSpellId", ⟨.int, []⟩, [], .placeholder⟩,
  ⟨249, "RandomName", ⟨.string, [.int]⟩, [.int 0], .placeholder⟩,
  ⟨250, "EffectPoison", ⟨.engine, [.int]⟩, [], .placeholder⟩,
  ⟨251, "EffectDisease", ⟨.engine, [.int]⟩, [], .placeholder⟩,
  ⟨252, "EffectSilence", ⟨.engine, []⟩, [], .placeholder⟩,
  ⟨253, "GetName", ⟨.string, [.object, .int]⟩, [.int 0], .query .name⟩,
  ⟨254, "GetLastSpeaker", ⟨.object, []⟩, [], .placeholder⟩,
  ⟨255, "BeginConversation", ⟨.int, [.string, .object]⟩,
    [.string "", .object .invalid], .change .beginConversation⟩,
  ⟨256, "GetLastPerceived", ⟨.object, []⟩, [], .placeholder⟩,
  ⟨257, "GetLastPerceptionHeard", ⟨.int, []⟩, [], .placeholder⟩,
  ⟨258, "GetLastPerceptionInaudible", ⟨.int, []⟩, [], .placeholder⟩,
  ⟨259, "GetLastPerceptionSeen", ⟨.int, []⟩, [], .placeholder⟩,
  ⟨260, "GetLastClosedBy", ⟨.object, []⟩, [], .placeholder⟩,
  ⟨261, "GetLastPerceptionVanished", ⟨.int, []⟩, [], .placeholder⟩,
  ⟨262, "GetFirstInPersistentObject", ⟨.object, [.object, .int, .int]⟩,
    [.object .invalid, .int 1, .int 0], .placeholder⟩,
  ⟨263, "GetNextInPersistentObject", ⟨.object, [.object, .int, .int]⟩,
    [.object .invalid, .int 1, .int 0], .placeholder⟩,
  ⟨264, "GetAreaOfEffectCreator", ⟨.object, [.object]⟩, [.object .invalid], .placeholder⟩,
  ⟨265, "DeleteLocalInt", ⟨.void, [.object, .string]⟩, [], .change (.deleteLocal .int)⟩,
  ⟨266, "DeleteLocalFloat", ⟨.void, [.object, .string]⟩, [], .change (.deleteLocal .float)⟩,
  ⟨267, "DeleteLocalString", ⟨.void, [.object, .string]⟩, [], .change (.deleteLocal .string)⟩,
  ⟨268, "DeleteLocalObject", ⟨.void, [.object, .string]⟩, [], .change (.deleteLocal .object)⟩,
  ⟨269, "DeleteLocalLocation", ⟨.void, [.object, .string]⟩, [], .change (.deleteLocal .location)⟩,
  ⟨270, "EffectHaste", ⟨.engine, []⟩, [], .placeholder⟩,
  ⟨271, "EffectSlow", ⟨.engine, []⟩, [], .placeholder⟩,
  ⟨272, "ObjectToString", ⟨.string, [.object]⟩, [], .text .ofObject⟩,
  ⟨273, "EffectImmunity", ⟨.engine, [.int]⟩, [], .placeholder⟩,
  ⟨274, "GetIsImmune", ⟨.int, [.object, .int, .object]⟩, [.object .invalid], .placeholder⟩,
  ⟨275, "EffectDamageImmunityIncrease", ⟨.engine, [.int, .int]⟩, [], .placeholder⟩,
  ⟨276, "GetEncounterActive", ⟨.int, [.object]⟩, [.object .invalid], .placeholder⟩,
  ⟨277, "SetEncounterActive", ⟨.void, [.int, .object]⟩, [.object .invalid], .placeholder⟩,
  ⟨278, "GetEncounterSpawnsMax", ⟨.int, [.object]⟩, [.object .invalid], .placeholder⟩,
  ⟨279, "SetEncounterSpawnsMax", ⟨.void, [.int, .object]⟩, [.object .invalid], .placeholder⟩,
  ⟨280, "GetEncounterSpawnsCurrent", ⟨.int, [.object]⟩, [.object .invalid], .placeholder⟩,
  ⟨281, "SetEncounterSpawnsCurrent", ⟨.void, [.int, .object]⟩, [.object .invalid], .placeholder⟩,
  ⟨282, "GetModuleItemAcquired", ⟨.object, []⟩, [], .placeholder⟩,
  ⟨283, "GetModuleItemAcquiredFrom", ⟨.object, []⟩, [], .placeholder⟩,
  ⟨284, "SetCustomToken", ⟨.void, [.int, .string]⟩, [], .change .setToken⟩,
  ⟨285, "GetHasFeat", ⟨.int, [.int, .object]⟩, [.object .invalid], .placeholder⟩,
  ⟨286, "GetHasSkill", ⟨.int, [.int, .object]⟩, [.object .invalid], .placeholder⟩,
  ⟨287, "ActionUseFeat", ⟨.void, [.int, .object]⟩, [], .placeholder⟩,
  ⟨288, "ActionUseSkill", ⟨.void, [.int, .object, .int, .object]⟩,
    [.int 0, .object .invalid], .placeholder⟩,
  ⟨289, "GetObjectSeen", ⟨.int, [.object, .object]⟩, [.object .invalid], .placeholder⟩,
  ⟨290, "GetObjectHeard", ⟨.int, [.object, .object]⟩, [.object .invalid], .placeholder⟩,
  ⟨291, "GetLastPlayerDied", ⟨.object, []⟩, [], .placeholder⟩,
  ⟨292, "GetModuleItemLost", ⟨.object, []⟩, [], .placeholder⟩,
  ⟨293, "GetModuleItemLostBy", ⟨.object, []⟩, [], .placeholder⟩,
  ⟨294, "ActionDoCommand", ⟨.void, [.state]⟩, [], .change .doCommand⟩,
  ⟨295, "EventConversation", ⟨.engine, []⟩, [], .placeholder⟩,
  ⟨296, "SetEncounterDifficulty", ⟨.void, [.int, .object]⟩, [.object .invalid], .placeholder⟩,
  ⟨297, "GetEncounterDifficulty", ⟨.int, [.object]⟩, [.object .invalid], .placeholder⟩,
  ⟨298, "GetDistanceBetweenLocations", ⟨.float, [.engine, .engine]⟩,
    [], .query .distanceBetweenLocations⟩,
  ⟨299, "GetReflexAdjustedDamage", ⟨.int, [.int, .object, .int, .int, .object]⟩,
    [.int 0, .object .invalid], .placeholder⟩]

end Adventure.Function
