import Adventure.Function.Builtin

/-!
# Script functions 0 to 99

Number, name, what it does, return type, parameter types, and the defaults of the last parameters.

See section 10.9 of the specification.
-/

namespace Adventure.Function

def block0 : List (Bridge.Entry Builtin) := [
  ⟨0, "Random", ⟨.int, [.int]⟩, [], .change .random⟩,
  ⟨1, "PrintString", ⟨.void, [.string]⟩, [], .change (.print .string)⟩,
  ⟨2, "PrintFloat", ⟨.void, [.float, .int, .int]⟩, [.int 18, .int 9], .change (.print .float)⟩,
  ⟨3, "FloatToString", ⟨.string, [.float, .int, .int]⟩, [.int 18, .int 9], .text .ofFloat⟩,
  ⟨4, "PrintInteger", ⟨.void, [.int]⟩, [], .change (.print .int)⟩,
  ⟨5, "PrintObject", ⟨.void, [.object]⟩, [], .change (.print .object)⟩,
  ⟨6, "AssignCommand", ⟨.void, [.object, .state]⟩, [], .change .assignCommand⟩,
  ⟨7, "DelayCommand", ⟨.void, [.float, .state]⟩, [], .change .delayCommand⟩,
  ⟨8, "ExecuteScript", ⟨.void, [.string, .object]⟩, [], .deed .executeScript⟩,
  ⟨9, "ClearAllActions", ⟨.void, [.int]⟩, [.int 0], .change .clearActions⟩,
  ⟨10, "SetFacing", ⟨.void, [.float]⟩, [], .change .setFacing⟩,
  ⟨11, "SetCalendar", ⟨.void, [.int, .int, .int]⟩, [], .placeholder⟩,
  ⟨12, "SetTime", ⟨.void, [.int, .int, .int, .int]⟩, [], .placeholder⟩,
  ⟨13, "GetCalendarYear", ⟨.int, []⟩, [], .placeholder⟩,
  ⟨14, "GetCalendarMonth", ⟨.int, []⟩, [], .placeholder⟩,
  ⟨15, "GetCalendarDay", ⟨.int, []⟩, [], .placeholder⟩,
  ⟨16, "GetTimeHour", ⟨.int, []⟩, [], .placeholder⟩,
  ⟨17, "GetTimeMinute", ⟨.int, []⟩, [], .placeholder⟩,
  ⟨18, "GetTimeSecond", ⟨.int, []⟩, [], .placeholder⟩,
  ⟨19, "GetTimeMillisecond", ⟨.int, []⟩, [], .placeholder⟩,
  ⟨20, "ActionRandomWalk", ⟨.void, []⟩, [], .placeholder⟩,
  ⟨21, "ActionMoveToLocation", ⟨.void, [.engine, .int]⟩, [.int 0], .placeholder⟩,
  ⟨22, "ActionMoveToObject", ⟨.void, [.object, .int, .float]⟩, [.int 0, .float 1], .placeholder⟩,
  ⟨23, "ActionMoveAwayFromObject", ⟨.void, [.object, .int, .float]⟩,
    [.int 0, .float 40], .placeholder⟩,
  ⟨24, "GetArea", ⟨.object, [.object]⟩, [], .query .area⟩,
  ⟨25, "GetEnteringObject", ⟨.object, []⟩, [], .query .enteringObject⟩,
  ⟨26, "GetExitingObject", ⟨.object, []⟩, [], .query .exitingObject⟩,
  ⟨27, "GetPosition", ⟨.vector, [.object]⟩, [], .query .position⟩,
  ⟨28, "GetFacing", ⟨.float, [.object]⟩, [], .query .facing⟩,
  ⟨29, "GetItemPossessor", ⟨.object, [.object]⟩, [], .placeholder⟩,
  ⟨30, "GetItemPossessedBy", ⟨.object, [.object, .string]⟩, [], .placeholder⟩,
  ⟨31, "CreateItemOnObject", ⟨.object, [.string, .object, .int, .string]⟩,
    [.object .invalid, .int 1, .string ""], .placeholder⟩,
  ⟨32, "ActionEquipItem", ⟨.void, [.object, .int]⟩, [], .placeholder⟩,
  ⟨33, "ActionUnequipItem", ⟨.void, [.object]⟩, [], .placeholder⟩,
  ⟨34, "ActionPickUpItem", ⟨.void, [.object]⟩, [], .placeholder⟩,
  ⟨35, "ActionPutDownItem", ⟨.void, [.object]⟩, [], .placeholder⟩,
  ⟨36, "GetLastAttacker", ⟨.object, [.object]⟩, [.object .invalid], .placeholder⟩,
  ⟨37, "ActionAttack", ⟨.void, [.object, .int]⟩, [.int 0], .placeholder⟩,
  ⟨38, "GetNearestCreature", ⟨.object, [.int, .int, .object, .int, .int, .int, .int, .int]⟩,
    [.object .invalid, .int 1, .int (-1), .int (-1), .int (-1), .int (-1)], .query .nearestCreature⟩,
  ⟨39, "ActionSpeakString", ⟨.void, [.string, .int]⟩, [.int 0], .change .speak⟩,
  ⟨40, "ActionPlayAnimation", ⟨.void, [.int, .float, .float]⟩, [.float 1, .float 0], .placeholder⟩,
  ⟨41, "GetDistanceToObject", ⟨.float, [.object]⟩, [], .query .distanceToObject⟩,
  ⟨42, "GetIsObjectValid", ⟨.int, [.object]⟩, [], .query .isValid⟩,
  ⟨43, "ActionOpenDoor", ⟨.void, [.object]⟩, [], .deed .openDoor⟩,
  ⟨44, "ActionCloseDoor", ⟨.void, [.object]⟩, [], .deed .closeDoor⟩,
  ⟨45, "SetCameraFacing", ⟨.void, [.float, .float, .float, .int]⟩,
    [.float (-1), .float (-1), .int 0], .placeholder⟩,
  ⟨46, "PlaySound", ⟨.void, [.string]⟩, [], .placeholder⟩,
  ⟨47, "GetSpellTargetObject", ⟨.object, []⟩, [], .placeholder⟩,
  ⟨48, "ActionCastSpellAtObject", ⟨.void, [.int, .object, .int, .int, .int, .int, .int]⟩,
    [.int 255, .int 0, .int 0, .int 0, .int 0], .placeholder⟩,
  ⟨49, "GetCurrentHitPoints", ⟨.int, [.object]⟩, [.object .invalid], .query .currentHp⟩,
  ⟨50, "GetMaxHitPoints", ⟨.int, [.object]⟩, [.object .invalid], .query .maxHp⟩,
  ⟨51, "GetLocalInt", ⟨.int, [.object, .string]⟩, [], .query (.localVariable .int)⟩,
  ⟨52, "GetLocalFloat", ⟨.float, [.object, .string]⟩, [], .query (.localVariable .float)⟩,
  ⟨53, "GetLocalString", ⟨.string, [.object, .string]⟩, [], .query (.localVariable .string)⟩,
  ⟨54, "GetLocalObject", ⟨.object, [.object, .string]⟩, [], .query (.localVariable .object)⟩,
  ⟨55, "SetLocalInt", ⟨.void, [.object, .string, .int]⟩, [], .change (.setLocal .int)⟩,
  ⟨56, "SetLocalFloat", ⟨.void, [.object, .string, .float]⟩, [], .change (.setLocal .float)⟩,
  ⟨57, "SetLocalString", ⟨.void, [.object, .string, .string]⟩, [], .change (.setLocal .string)⟩,
  ⟨58, "SetLocalObject", ⟨.void, [.object, .string, .object]⟩, [], .change (.setLocal .object)⟩,
  ⟨59, "GetStringLength", ⟨.int, [.string]⟩, [], .text .length⟩,
  ⟨60, "GetStringUpperCase", ⟨.string, [.string]⟩, [], .text .upperCase⟩,
  ⟨61, "GetStringLowerCase", ⟨.string, [.string]⟩, [], .text .lowerCase⟩,
  ⟨62, "GetStringRight", ⟨.string, [.string, .int]⟩, [], .text .right⟩,
  ⟨63, "GetStringLeft", ⟨.string, [.string, .int]⟩, [], .text .left⟩,
  ⟨64, "InsertString", ⟨.string, [.string, .string, .int]⟩, [], .text .insert⟩,
  ⟨65, "GetSubString", ⟨.string, [.string, .int, .int]⟩, [], .text .subString⟩,
  ⟨66, "FindSubString", ⟨.int, [.string, .string, .int]⟩, [.int 0], .text .find⟩,
  ⟨67, "fabs", ⟨.float, [.float]⟩, [], .number (.float .abs)⟩,
  ⟨68, "cos", ⟨.float, [.float]⟩, [], .number (.float .cos)⟩,
  ⟨69, "sin", ⟨.float, [.float]⟩, [], .number (.float .sin)⟩,
  ⟨70, "tan", ⟨.float, [.float]⟩, [], .number (.float .tan)⟩,
  ⟨71, "acos", ⟨.float, [.float]⟩, [], .number (.float .acos)⟩,
  ⟨72, "asin", ⟨.float, [.float]⟩, [], .number (.float .asin)⟩,
  ⟨73, "atan", ⟨.float, [.float]⟩, [], .number (.float .atan)⟩,
  ⟨74, "log", ⟨.float, [.float]⟩, [], .number (.float .log)⟩,
  ⟨75, "pow", ⟨.float, [.float, .float]⟩, [], .number .pow⟩,
  ⟨76, "sqrt", ⟨.float, [.float]⟩, [], .number (.float .sqrt)⟩,
  ⟨77, "abs", ⟨.int, [.int]⟩, [], .number .absInt⟩,
  ⟨78, "EffectHeal", ⟨.engine, [.int]⟩, [], .placeholder⟩,
  ⟨79, "EffectDamage", ⟨.engine, [.int, .int, .int]⟩, [.int 8, .int 0], .placeholder⟩,
  ⟨80, "EffectAbilityIncrease", ⟨.engine, [.int, .int]⟩, [], .placeholder⟩,
  ⟨81, "EffectDamageResistance", ⟨.engine, [.int, .int, .int]⟩, [.int 0], .placeholder⟩,
  ⟨82, "EffectResurrection", ⟨.engine, []⟩, [], .placeholder⟩,
  ⟨83, "EffectSummonCreature", ⟨.engine, [.string, .int, .float, .int]⟩,
    [.int (-1), .float 0, .int 0], .placeholder⟩,
  ⟨84, "GetCasterLevel", ⟨.int, [.object]⟩, [], .placeholder⟩,
  ⟨85, "GetFirstEffect", ⟨.engine, [.object]⟩, [], .placeholder⟩,
  ⟨86, "GetNextEffect", ⟨.engine, [.object]⟩, [], .placeholder⟩,
  ⟨87, "RemoveEffect", ⟨.void, [.object, .engine]⟩, [], .placeholder⟩,
  ⟨88, "GetIsEffectValid", ⟨.int, [.engine]⟩, [], .placeholder⟩,
  ⟨89, "GetEffectDurationType", ⟨.int, [.engine]⟩, [], .placeholder⟩,
  ⟨90, "GetEffectSubType", ⟨.int, [.engine]⟩, [], .placeholder⟩,
  ⟨91, "GetEffectCreator", ⟨.object, [.engine]⟩, [], .placeholder⟩,
  ⟨92, "IntToString", ⟨.string, [.int]⟩, [], .text .ofInt⟩,
  ⟨93, "GetFirstObjectInArea", ⟨.object, [.object]⟩, [.object .invalid], .change .firstInArea⟩,
  ⟨94, "GetNextObjectInArea", ⟨.object, [.object]⟩, [.object .invalid], .change .nextInArea⟩,
  ⟨95, "d2", ⟨.int, [.int]⟩, [.int 1], .change (.dice 2)⟩,
  ⟨96, "d3", ⟨.int, [.int]⟩, [.int 1], .change (.dice 3)⟩,
  ⟨97, "d4", ⟨.int, [.int]⟩, [.int 1], .change (.dice 4)⟩,
  ⟨98, "d6", ⟨.int, [.int]⟩, [.int 1], .change (.dice 6)⟩,
  ⟨99, "d8", ⟨.int, [.int]⟩, [.int 1], .change (.dice 8)⟩]

end Adventure.Function
