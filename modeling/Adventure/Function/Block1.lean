import Adventure.Function.Builtin

/-!
# Script functions 100 to 199

Number, name, what it does, return type, parameter types, and the defaults of the last parameters.

See section 10.9 of the specification.
-/

namespace Adventure.Function

def block1 : List (Bridge.Entry Builtin) := [
  ⟨100, "d10", ⟨.int, [.int]⟩, [.int 1], .change (.dice 10)⟩,
  ⟨101, "d12", ⟨.int, [.int]⟩, [.int 1], .change (.dice 12)⟩,
  ⟨102, "d20", ⟨.int, [.int]⟩, [.int 1], .change (.dice 20)⟩,
  ⟨103, "d100", ⟨.int, [.int]⟩, [.int 1], .change (.dice 100)⟩,
  ⟨104, "VectorMagnitude", ⟨.float, [.vector]⟩, [], .number .magnitude⟩,
  ⟨105, "GetMetaMagicFeat", ⟨.int, []⟩, [], .placeholder⟩,
  ⟨106, "GetObjectType", ⟨.int, [.object]⟩, [], .query .objectType⟩,
  ⟨107, "GetRacialType", ⟨.int, [.object]⟩, [], .query .race⟩,
  ⟨108, "FortitudeSave", ⟨.int, [.object, .int, .int, .object]⟩,
    [.int 0, .object .invalid], .placeholder⟩,
  ⟨109, "ReflexSave", ⟨.int, [.object, .int, .int, .object]⟩,
    [.int 0, .object .invalid], .placeholder⟩,
  ⟨110, "WillSave", ⟨.int, [.object, .int, .int, .object]⟩,
    [.int 0, .object .invalid], .placeholder⟩,
  ⟨111, "GetSpellSaveDC", ⟨.int, []⟩, [], .placeholder⟩,
  ⟨112, "MagicalEffect", ⟨.engine, [.engine]⟩, [], .placeholder⟩,
  ⟨113, "SupernaturalEffect", ⟨.engine, [.engine]⟩, [], .placeholder⟩,
  ⟨114, "ExtraordinaryEffect", ⟨.engine, [.engine]⟩, [], .placeholder⟩,
  ⟨115, "EffectACIncrease", ⟨.engine, [.int, .int, .int]⟩, [.int 0, .int 0], .placeholder⟩,
  ⟨116, "GetAC", ⟨.int, [.object, .int]⟩, [.int 0], .placeholder⟩,
  ⟨117, "EffectSavingThrowIncrease", ⟨.engine, [.int, .int, .int]⟩, [.int 0], .placeholder⟩,
  ⟨118, "EffectAttackIncrease", ⟨.engine, [.int, .int]⟩, [.int 0], .placeholder⟩,
  ⟨119, "EffectDamageReduction", ⟨.engine, [.int, .int, .int]⟩, [.int 0], .placeholder⟩,
  ⟨120, "EffectDamageIncrease", ⟨.engine, [.int, .int]⟩, [.int 8], .placeholder⟩,
  ⟨121, "RoundsToSeconds", ⟨.float, [.int]⟩, [], .number (.periods 6)⟩,
  ⟨122, "HoursToSeconds", ⟨.float, [.int]⟩, [], .query .hoursToSeconds⟩,
  ⟨123, "TurnsToSeconds", ⟨.float, [.int]⟩, [], .number (.periods 60)⟩,
  ⟨124, "GetLawChaosValue", ⟨.int, [.object]⟩, [], .query .lawChaos⟩,
  ⟨125, "GetGoodEvilValue", ⟨.int, [.object]⟩, [], .query .goodEvil⟩,
  ⟨126, "GetAlignmentLawChaos", ⟨.int, [.object]⟩, [], .query .alignmentLawChaos⟩,
  ⟨127, "GetAlignmentGoodEvil", ⟨.int, [.object]⟩, [], .query .alignmentGoodEvil⟩,
  ⟨128, "GetFirstObjectInShape", ⟨.object, [.int, .float, .engine, .int, .int, .vector]⟩,
    [.int 0, .int 1, .vector .zero], .placeholder⟩,
  ⟨129, "GetNextObjectInShape", ⟨.object, [.int, .float, .engine, .int, .int, .vector]⟩,
    [.int 0, .int 1, .vector .zero], .placeholder⟩,
  ⟨130, "EffectEntangle", ⟨.engine, []⟩, [], .placeholder⟩,
  ⟨131, "SignalEvent", ⟨.void, [.object, .engine]⟩, [], .placeholder⟩,
  ⟨132, "EventUserDefined", ⟨.engine, [.int]⟩, [], .placeholder⟩,
  ⟨133, "EffectDeath", ⟨.engine, [.int, .int]⟩, [.int 0, .int 1], .placeholder⟩,
  ⟨134, "EffectKnockdown", ⟨.engine, []⟩, [], .placeholder⟩,
  ⟨135, "ActionGiveItem", ⟨.void, [.object, .object]⟩, [], .placeholder⟩,
  ⟨136, "ActionTakeItem", ⟨.void, [.object, .object]⟩, [], .placeholder⟩,
  ⟨137, "VectorNormalize", ⟨.vector, [.vector]⟩, [], .number .normalize⟩,
  ⟨138, "EffectCurse", ⟨.engine, [.int, .int, .int, .int, .int, .int]⟩,
    [.int 1, .int 1, .int 1, .int 1, .int 1, .int 1], .placeholder⟩,
  ⟨139, "GetAbilityScore", ⟨.int, [.object, .int, .int]⟩, [.int 0], .query .abilityScore⟩,
  ⟨140, "GetIsDead", ⟨.int, [.object]⟩, [], .query .isDead⟩,
  ⟨141, "PrintVector", ⟨.void, [.vector, .int]⟩, [], .change (.print .vector)⟩,
  ⟨142, "Vector", ⟨.vector, [.float, .float, .float]⟩,
    [.float 0, .float 0, .float 0], .number .vector⟩,
  ⟨143, "SetFacingPoint", ⟨.void, [.vector]⟩, [], .change .setFacingPoint⟩,
  ⟨144, "AngleToVector", ⟨.vector, [.float]⟩, [], .number .ofAngle⟩,
  ⟨145, "VectorToAngle", ⟨.float, [.vector]⟩, [], .number .toAngle⟩,
  ⟨146, "TouchAttackMelee", ⟨.int, [.object, .int]⟩, [.int 1], .placeholder⟩,
  ⟨147, "TouchAttackRanged", ⟨.int, [.object, .int]⟩, [.int 1], .placeholder⟩,
  ⟨148, "EffectParalyze", ⟨.engine, []⟩, [], .placeholder⟩,
  ⟨149, "EffectSpellImmunity", ⟨.engine, [.int]⟩, [.int 0], .placeholder⟩,
  ⟨150, "EffectDeaf", ⟨.engine, []⟩, [], .placeholder⟩,
  ⟨151, "GetDistanceBetween", ⟨.float, [.object, .object]⟩, [], .query .distanceBetween⟩,
  ⟨152, "SetLocalLocation", ⟨.void, [.object, .string, .engine]⟩, [], .change (.setLocal .location)⟩,
  ⟨153, "GetLocalLocation", ⟨.engine, [.object, .string]⟩, [], .query (.localVariable .location)⟩,
  ⟨154, "EffectSleep", ⟨.engine, []⟩, [], .placeholder⟩,
  ⟨155, "GetItemInSlot", ⟨.object, [.int, .object]⟩, [.object .invalid], .placeholder⟩,
  ⟨156, "EffectCharmed", ⟨.engine, []⟩, [], .placeholder⟩,
  ⟨157, "EffectConfused", ⟨.engine, []⟩, [], .placeholder⟩,
  ⟨158, "EffectFrightened", ⟨.engine, []⟩, [], .placeholder⟩,
  ⟨159, "EffectDominated", ⟨.engine, []⟩, [], .placeholder⟩,
  ⟨160, "EffectDazed", ⟨.engine, []⟩, [], .placeholder⟩,
  ⟨161, "EffectStunned", ⟨.engine, []⟩, [], .placeholder⟩,
  ⟨162, "SetCommandable", ⟨.void, [.int, .object]⟩, [.object .invalid], .change .setCommandable⟩,
  ⟨163, "GetCommandable", ⟨.int, [.object]⟩, [.object .invalid], .query .commandable⟩,
  ⟨164, "EffectRegenerate", ⟨.engine, [.int, .float]⟩, [], .placeholder⟩,
  ⟨165, "EffectMovementSpeedIncrease", ⟨.engine, [.int]⟩, [], .placeholder⟩,
  ⟨166, "GetHitDice", ⟨.int, [.object]⟩, [], .query .hitDice⟩,
  ⟨167, "ActionForceFollowObject", ⟨.void, [.object, .float]⟩, [.float 0], .placeholder⟩,
  ⟨168, "GetTag", ⟨.string, [.object]⟩, [], .query .tag⟩,
  ⟨169, "ResistSpell", ⟨.int, [.object, .object]⟩, [], .placeholder⟩,
  ⟨170, "GetEffectType", ⟨.int, [.engine]⟩, [], .placeholder⟩,
  ⟨171, "EffectAreaOfEffect", ⟨.engine, [.int, .string, .string, .string]⟩,
    [.string "", .string "", .string ""], .placeholder⟩,
  ⟨172, "GetFactionEqual", ⟨.int, [.object, .object]⟩, [.object .invalid], .placeholder⟩,
  ⟨173, "ChangeFaction", ⟨.void, [.object, .object]⟩, [], .placeholder⟩,
  ⟨174, "GetIsListening", ⟨.int, [.object]⟩, [], .placeholder⟩,
  ⟨175, "SetListening", ⟨.void, [.object, .int]⟩, [], .placeholder⟩,
  ⟨176, "SetListenPattern", ⟨.void, [.object, .string, .int]⟩, [.int 0], .placeholder⟩,
  ⟨177, "TestStringAgainstPattern", ⟨.int, [.string, .string]⟩, [], .placeholder⟩,
  ⟨178, "GetMatchedSubstring", ⟨.string, [.int]⟩, [], .placeholder⟩,
  ⟨179, "GetMatchedSubstringsCount", ⟨.int, []⟩, [], .placeholder⟩,
  ⟨180, "EffectVisualEffect", ⟨.engine, [.int, .int]⟩, [.int 0], .placeholder⟩,
  ⟨181, "GetFactionWeakestMember", ⟨.object, [.object, .int]⟩,
    [.object .invalid, .int 1], .placeholder⟩,
  ⟨182, "GetFactionStrongestMember", ⟨.object, [.object, .int]⟩,
    [.object .invalid, .int 1], .placeholder⟩,
  ⟨183, "GetFactionMostDamagedMember", ⟨.object, [.object, .int]⟩,
    [.object .invalid, .int 1], .placeholder⟩,
  ⟨184, "GetFactionLeastDamagedMember", ⟨.object, [.object, .int]⟩,
    [.object .invalid, .int 1], .placeholder⟩,
  ⟨185, "GetFactionGold", ⟨.int, [.object]⟩, [], .placeholder⟩,
  ⟨186, "GetFactionAverageReputation", ⟨.int, [.object, .object]⟩, [], .placeholder⟩,
  ⟨187, "GetFactionAverageGoodEvilAlignment", ⟨.int, [.object]⟩, [], .placeholder⟩,
  ⟨188, "GetFactionAverageLawChaosAlignment", ⟨.int, [.object]⟩, [], .placeholder⟩,
  ⟨189, "GetFactionAverageLevel", ⟨.int, [.object]⟩, [], .placeholder⟩,
  ⟨190, "GetFactionAverageXP", ⟨.int, [.object]⟩, [], .placeholder⟩,
  ⟨191, "GetFactionMostFrequentClass", ⟨.int, [.object]⟩, [], .placeholder⟩,
  ⟨192, "GetFactionWorstAC", ⟨.object, [.object, .int]⟩, [.object .invalid, .int 1], .placeholder⟩,
  ⟨193, "GetFactionBestAC", ⟨.object, [.object, .int]⟩, [.object .invalid, .int 1], .placeholder⟩,
  ⟨194, "ActionSit", ⟨.void, [.object]⟩, [], .placeholder⟩,
  ⟨195, "GetListenPatternNumber", ⟨.int, []⟩, [], .number (.constant (-1))⟩,
  ⟨196, "ActionJumpToObject", ⟨.void, [.object, .int]⟩, [.int 1], .deed .jumpToObject⟩,
  ⟨197, "GetWaypointByTag", ⟨.object, [.string]⟩, [], .query .waypointByTag⟩,
  ⟨198, "GetTransitionTarget", ⟨.object, [.object]⟩, [], .placeholder⟩,
  ⟨199, "EffectLinkEffects", ⟨.engine, [.engine, .engine]⟩, [], .placeholder⟩]

end Adventure.Function
