import BinaryCoverage.Unicode.CodeSet

/-!
# Scripts

Every code point belongs to one script, here marked by one character.  This file defines:

* `scriptMap` — the mark of every code point;
* `script?` — the mark of a script by any of its names, which are written in lower case and without
  blanks, hyphens and underscores.
-/

namespace BinaryCoverage.Unicode

def scriptMap : CodeMap := .ofText
  (String.join
    ["0Ⴓ1tΦqႳ6ΦqႳ1bΦ1ႳfΦ1Ⴓ5ΦnႳ1ΦvႳ1ΦchႳ13Φ5Ⴓ5N2ႳkႲ34Ñ4Ⴓ1Ñ3Ⴔ2Ñ4Ⴓ1Ñ1Ⴔ4Ñ1Ⴓ1Ñ1Ⴓ1Ñ3Ⴔ1Ñ1Ⴔ1ÑkႴ1Ñ1rYeÑgÁ",
      "3pႲ2Á4pႴ1F12Ⴔ2F1eႴ2F3Ⴔ1Β1jႴ8ΒrႴ4Β6ႴbD5Ⴓ1D6Ⴓ1DeႳ1D3Ⴓ1DwႳ1DaႲbDqႲ1D30Ⴓ1DyՎeႴ1Վ1oႴ2Վ3D1cႢ1eႴe",
      "Щ1nႴ2Щ3Կ1aႴ2ԿfႴ1ЖsႴ2Ж1Ⴔ1ՎbႴ5DvႴ1D2Ⴔ6D22Ⴓ1DtÂ29Ⴒ4ÂfႳ2ÂqL4Ⴔ1L8Ⴔ2L2Ⴔ2LmႴ1L7Ⴔ1L1Ⴔ3L4Ⴔ2L9Ⴔ2L2Ⴔ2",
      "L4Ⴔ8L1Ⴔ4L2Ⴔ1L5Ⴔ2LpႴ2Ó3Ⴔ1Ó6Ⴔ4Ó2Ⴔ2ÓmႴ1Ó7Ⴔ1Ó2Ⴔ1Ó2Ⴔ1Ó2Ⴔ2Ó1Ⴔ1Ó5Ⴔ4Ó2Ⴔ2Ó3Ⴔ3Ó1Ⴔ7Ó4Ⴔ1Ó1Ⴔ7ÓhႴaÒ3Ⴔ1Ò9",
      "Ⴔ1Ò3Ⴔ1ÒmႴ1Ò7Ⴔ1Ò2Ⴔ1Ò5Ⴔ2ÒaႴ1Ò3Ⴔ1Ò3Ⴔ2Ò1ႴfÒ4Ⴔ2ÒcႴ7Ò7Ⴔ1Ю3Ⴔ1Ю8Ⴔ2Ю2Ⴔ2ЮmႴ1Ю7Ⴔ1Ю2Ⴔ1Ю5Ⴔ2Ю9Ⴔ2Ю2Ⴔ2Ю3Ⴔ7",
      "Ю3Ⴔ4Ю2Ⴔ1Ю5Ⴔ2ЮiႴaՓ2Ⴔ1Փ6Ⴔ3Փ3Ⴔ1Փ4Ⴔ3Փ2Ⴔ1Փ1Ⴔ1Փ2Ⴔ3Փ2Ⴔ3Փ3Ⴔ3ՓcႴ4Փ5Ⴔ3Փ3Ⴔ1Փ4Ⴔ2Փ1Ⴔ6Փ1ႴeՓlႴ5ՖdႴ1Ֆ3Ⴔ1Ֆn",
      "Ⴔ1ՖgႴ2Ֆ9Ⴔ1Ֆ3Ⴔ1Ֆ4Ⴔ7Ֆ2Ⴔ1Ֆ3Ⴔ2Ֆ1Ⴔ2Ֆ4Ⴔ2ՖaႴ7Ֆ9ΡdႴ1Ρ3Ⴔ1ΡnႴ1ΡaႴ1Ρ5Ⴔ2Ρ9Ⴔ1Ρ3Ⴔ1Ρ4Ⴔ7Ρ2Ⴔ6Ρ2Ⴔ1Ρ4Ⴔ2ΡaႴ1Ρ3",
      "ႴcНdႴ1Н3Ⴔ1Н1fႴ1Н3Ⴔ1Н6Ⴔ4НgႴ2НqႴ1Շ3Ⴔ1ՇiႴ3ՇoႴ1Շ9Ⴔ1Շ1Ⴔ2Շ7Ⴔ3Շ1Ⴔ4Շ6Ⴔ1Շ1Ⴔ1Շ8Ⴔ6ՇaႴ2Շ3ႴcႣ1mႴ4Ⴓ1ႣsႴ1",
      "1Υ2Ⴔ1Υ1Ⴔ1Υ5Ⴔ1ΥoႴ1Υ1Ⴔ1ΥnႴ2Υ5Ⴔ1Υ1Ⴔ1Υ7Ⴔ1ΥaႴ2Υ4ႴwႤ20Ⴔ1Ⴄ10Ⴔ4Ⴄ13Ⴔ1Ⴄ10Ⴔ1ႤfႴ1Ⴄ7Ⴓ4Ⴄ2Ⴔ11У4gË12Ⴔ1Ë1Ⴔ5",
      "Ë1Ⴔ2Ë17Ⴓ1Ë4Ô74Ê21Ⴔ1Ê4Ⴔ2Ê7Ⴔ1Ê1Ⴔ1Ê4Ⴔ2Ê15Ⴔ1Ê4Ⴔ2ÊxႴ1Ê4Ⴔ2Ê7Ⴔ1Ê1Ⴔ1Ê4Ⴔ2ÊfႴ1Ê1lႴ1Ê4Ⴔ2Ê1vႴ2ÊwႴ3ÊqႴ6",
      "W2eႴ2W6Ⴔ2ThsЫtႴ3Ծ23Ⴓ3ԾbႴ7ႡmႴ9Ⴁ1ÖlႳ2Ⴔ9RkႴcՏdႴ1Տ3Ⴔ1Տ2ႴcΞ2mႴ2ΞaႴ6ΞaႴ6П2Ⴓ2П1Ⴓ1ПkႴ6П2hႴ7П17Ⴔ5T1",
      "yႴaΨvႴ1ΨcႴ4ΨcႴ4Ψ1Ⴔ3ΨcՑuႴ2Ց5ႴbՒ18Ⴔ4ՒqႴ6ՒbႴ3Ւ2ΞwQsႴ2Q2Τ1rႴ1ΤtႴ2ΤbႴ6ΤaႴ6ΤeႴ2ႲvႴ1dH25Ⴔ3H1bႴ1Ռ1",
      "sK1gႴ8K4Χ1kႴ3ΧfႴ3Χ3Ь1cÁ9Ⴔ7Ë17Ⴔ2Ë3Ռ8Ⴔ8Ⴒ3Ⴓ1ႲdႳ1Ⴒ7Ⴓ4Ⴒ1Ⴓ6Ⴒ1Ⴓ3Ⴒ2Ⴓ1Ⴔ5Φ12Ñ5Á1Φ1dÑ5Φ4Ñ5ΦdÁ1Φ1yÑ1Ⴒ1",
      "sΦ74ÑmႴ2Ñ6Ⴔ2Ñ12Ⴔ2Ñ6Ⴔ2Ñ8Ⴔ1Ñ1Ⴔ1Ñ1Ⴔ1Ñ1Ⴔ1ÑvႴ2Ñ1hႴ1ÑfႴ1ÑeႴ2Ñ6Ⴔ1ÑjႴ2Ñ3Ⴔ1Ñ9Ⴔ1ႳcႲ2Ⴓ2fႴ1ႳbΦ1Ⴔ2ႳbΦ1Ⴓ",
      "fႴ1ΦdႴ3ႳxႴfႲxႴfႳ12Ñ1Ⴓ3Φ2Ⴓ6Φ1ႳrΦ1ႳhΦ15Ⴓ3Ⴔ4ႳifႴpႳbႴlႳpsP74ႳhgႴ2ႳwႴ1Ⴓ2xÌ2oΦwY38Ⴔ5Y7Ë12Ⴔ1Ë1Ⴔ5Ë",
      "1Ⴔ2Ⴀ1kႴ7Ⴀ2ႴeႠ1ÊnႴ9Ê7Ⴔ1Ê7Ⴔ1Ê7Ⴔ1Ê7Ⴔ1Ê7Ⴔ1Ê7Ⴔ1Ê7Ⴔ1Ê7Ⴔ1ÁwႳ2mႴyÕqႴ1Õ2hႴcÕ5yႴqႳcႴ4Ⴓ5Õ1Ⴓ1Õ1ႳpÕ9Ⴒ4Ô",
      "2Ⴓ8Õ4Ⴓ4Ⴔ1Γ2eႴ2Ⴒ2Ⴓ2Γ3Ⴓ1Λ2iႳ2Λ3Ⴔ5N17Ⴔ1Ô2mႴ1ႳgNwႳ10ႴcΛgÔvႴ1Ⴓ1sÔvႳ29Λ1bႳ1Λ2gႳ4oÕ534Ⴓ1sÕg74ႰwdႴ",
      "3Ⴐ1jႴ9Б1cႩ8cႴkÁ2oI2gႴ8ႳyΦ2uႳ3Φ1sႴ5Φ2Ⴔ1Φ1Ⴔ1Φ5ႴoΦeՍ19Ⴔ3ႳaႴ6Զ1kႴ8Ձ1yႴ8ՁcႴ6ÂwΚ1aႳ1Κ1Լ10ႴbԼ1ÔtႴ",
      "3Ι26Ⴔ1Ⴓ1ΙaႴ4Ι2УvႴ1V1jႴ9VeႴ2VaႴ2V4УwՕ1vႴoՕ5СnႴaÊ6Ⴔ2Ê6Ⴔ2Ê6Ⴔ9Ê7Ⴔ1Ê7Ⴔ1Φ17Ⴓ1Φ9Ñ1Φ4Ⴓ2Ⴔ4W28С1aႴ2С",
      "aႴ6Ô8mcႴcÔnႴ4Ô1dႴ6isÕa6Ⴔ2Õ2yႴ12Φ7ႴcF5Ⴔ5ΒqႴ1Β5Ⴔ1Β1Ⴔ1Β2Ⴔ1Β2Ⴔ1ΒaD37ႴgDa3Ⴓ2D28Ⴔ2D1iႴ7D1ႴwDgႲgႳ",
      "aႴ6ႲeÁ2ႳzႴ1ႳjႴ1Ⴓ4Ⴔ4D5Ⴔ1D3rႴ2Ⴓ1Ⴔ1ႳwΦqႳ6ΦqႳbΛaႳ1Λ19Ⴓ2ÔvႴ3Ô6Ⴔ2Ô6Ⴔ2Ô6Ⴔ2Ô3Ⴔ3Ⴓ7Ⴔ1Ⴓ7ႴaႳ5Ⴔ2АcႴ1АqႴ",
      "1АjႴ1А2Ⴔ1АfႴ2АeႴyА3fႴ5Ⴓ3Ⴔ4Ⴓ19Ⴔ3Ⴓ9Ñ27Ⴔ1ႳdႴ3Ñ1Ⴔ1bႳ19Ⴒ1Ⴔ3mВtႴ3U1dႴfႲ1ႳrႴ4Θ10Ⴔ9Θ3ÏrႴ5Ե17Ⴔ5ႨuႴ1",
      "Ⴈ1Ⴍ10Ⴔ4ႭeႴ16Å28Ճ1cԱuႴ2ԱaႴ6Я10Ⴔ4Я10Ⴔ4È14Ⴔ8B1gႴbB1ႪbႴ1ႪfႴ1Ⴊ7Ⴔ1Ⴊ2Ⴔ1ႪbႴ1ႪfႴ1Ⴊ7Ⴔ1Ⴊ2Ⴔ1vΩ8nႴ9ΩmႴa",
      "Ω8ႴoΦ6Ⴔ1Φ16Ⴔ1Φ9Ⴔ1xÀ6Ⴔ2À1Ⴔ1À18Ⴔ1À2Ⴔ3À1Ⴔ2À1EmႴ1E9ԳwЧvႴ8Ч9Ⴔ1cΑjႴ1Α2Ⴔ5Α5ԹsႴ3Թ1ГqႴ5Г1Ⴔ1sМwЛoႴ4Л",
      "kႴ2Л1aΝ4Ⴔ1Ν2Ⴔ5Ν8Ⴔ1Ν3Ⴔ1ΝtႴ2Ν3Ⴔ4ΝaႴ7Ν9Ⴔ7ՀwЦwႴwЗ13Ⴔ4ЗcႴ9G1iႴ3G7ԻmႴ2Ի8ԷjႴ5Է8ԸiႴ7Ը4ႴcԸ7Ⴔ28Э21Ⴔ1",
      "jΗ1fႴdΗ1fႴ7Η6Խ14Ⴔ8ԽaႴ86DvႴ1Ⴏ16Ⴔ1Ⴏ3Ⴔ2Ⴏ2Ⴔ23D3Չ14Ⴔ8Ո16ႴmԲqႴ12XsႴkÉnႴ9O26Ⴔ4O10Ⴔ9O1Σ1vႴaΣ1Ⴔ2ՊpႴ",
      "7ՊaႴ6S1hႴ1SiႴ8Д13Ⴔ9Մ2oႴ1ՇkႴbΟiႴ1Ο1bႴ1qТ7Ⴔ1Т1Ⴔ1Т4Ⴔ1ТfႴ1ТbႴ6Ն1nႴ5ՆaႴ6Ð4Ⴔ1Ð8Ⴔ2Ð2Ⴔ2ÐmႴ1Ð7Ⴔ1Ð2Ⴔ",
      "1Ð5Ⴔ1Ⴒ1Ð9Ⴔ2Ð2Ⴔ2Ð3Ⴔ2Ð1Ⴔ6Ð1Ⴔ5Ð7Ⴔ2Ð7Ⴔ3Ð5Ⴔ3vШ2kႴ1Ш5ႴuႥ20Ⴔ8ႥaႴ4mՅ1iႴ2Յ12ႴyО1xႴbОaႴ6ПdႴjՐ1mႴ6ՐaႴ",
      "1iCrႴ2CfႴ4CnႴ55Ä1oႴ2sႫ2bႴcႫ1Ã7Ⴔ2Ã1Ⴔ2Ã8Ⴔ1Ã2Ⴔ1ÃuႴ1Ã2Ⴔ2ÃcႴ9ÃaႴ1yХ8Ⴔ2Х1aႴ2ХbႴrႱ20Ⴔ8Ջ2bႴdTgԴ1lႴ",
      "7ÂaႴ6uM9Ⴔ1M19Ⴔ1MeႴaMtႴ3ИwႴ2ИmႴ1ИeႴ21Î7Ⴔ1Î2Ⴔ1Î18Ⴔ3Î1Ⴔ1Î2Ⴔ1Î9Ⴔ8ÎaႴ6Í6Ⴔ1Í2Ⴔ1Í11Ⴔ1Í2Ⴔ1Í6Ⴔ7ÍaႴ8",
      "mЕpႴ7ΜhႴ1Μ15Ⴔ3ΜsႴ2eБ1ႴfՓ1eႴdՓ1ႮpmႴ2uႮ33Ⴔ1Ⴎ5ႴbႮ5gႴ218Z2rႴdÇuuႴ33eΔg7Ⴔ6ntIftႴ7РvႴ1РaႴ4Р2Ⴆ27Ⴔ",
      "1ႦaႴ6JuႴ2J6ႴaΕ1yႴaΕaႴ1Ε7Ⴔ1ΕlႴ5ΕjႴj4Й2jႴ2tԺ23Ⴔ4Ժ1lႴ7ԺhႴ1sՔ1Ъ1Õ2Π1ႴbÕ2ႴeՔ4qgႴ8ՔlcΠd2Ⴔ16Ք9Ⴔ6w",
      "7Λ4Ⴔ1Λ7Ⴔ1Λ2Ⴔ1Λ1Γ7zΛ3ႴfΓ1ႴtΓ3Ⴔ2Λ1ႴeΛ4Ⴔ8Ъb0Ⴔ1s4Æ2zႴ5ÆdႴ3Æ9Ⴔ7ÆaႴ2Æ4Ⴓ4Ⴔ3mkႲ1aႴ2ႲnႴ9Ⴓ38Ⴔ1oႳ6uႴa",
      "Ⴓ13Ⴔ2Ⴓ1qႲ3ႳhႲ8Ⴓ2Ⴒ7ႳuႲ4Ⴓ1pႴlÑ1yႴ3eႳkႴcႳkႴcႳ2fႴ9ႳpႴ3rႳ2dႴ1Ⴓ1zႴ1Ⴓ2Ⴔ2Ⴓ1Ⴔ2Ⴓ2Ⴔ2Ⴓ4Ⴔ1ႳcႴ1Ⴓ1Ⴔ1Ⴓ7Ⴔ1Ⴓ",
      "1tႴ1Ⴓ4Ⴔ2Ⴓ8Ⴔ1Ⴓ7Ⴔ1ႳsႴ1Ⴓ4Ⴔ1Ⴓ5Ⴔ1Ⴓ1Ⴔ3Ⴓ7Ⴔ1Ⴓ9gႴ2Ⴓ84Ⴔ2Ⴓ1eՂi4ႴfՂ5Ⴔ1ՂfႴuoΦvႴ6Φ6Ⴔ5xÌ7Ⴔ1ÌhႴ2Ì7Ⴔ1Ì2Ⴔ1Ì5",
      "Ⴔ5Á1qႴxÁ1Ⴔ34Ζ19Ⴔ3ΖeႴ2ΖaႴ4Ζ2Ⴔ8wႧvႴhႬ1mႴ5Ⴌ1ႴcwФ16ႴkmÊ7Ⴔ1Ê4Ⴔ1Ê2Ⴔ1ÊfႴ1К5hႴ2КgႴ15A24Ⴔ4AaႴ4A2Ⴔlt",
      "Ⴓ1wႴ24Ⴓ1pႴ5eD4Ⴔ1DrႴ1D2Ⴔ1D1Ⴔ2D1Ⴔ1DaႴ1D4Ⴔ1D1Ⴔ1D1Ⴔ6D1Ⴔ4D1Ⴔ1D1Ⴔ1D1Ⴔ1D3Ⴔ1D2Ⴔ1D1Ⴔ2D1Ⴔ1D1Ⴔ1D1Ⴔ1D1",
      "Ⴔ1D1Ⴔ1D2Ⴔ1D1Ⴔ2D4Ⴔ1D7Ⴔ1D4Ⴔ1D4Ⴔ1D1Ⴔ1DaႴ1DhႴ5D3Ⴔ1D5Ⴔ1DhႴ1gD2Ⴔ7iႳ18Ⴔ4Ⴓ2sႴcႳfႴ2ႳfႴ1ႳfႴ1Ⴓ11ႴaႳ4u",
      "Ⴔ1kႳqΓ1Ⴓ2ႴdႳ18Ⴔ4Ⴓ9Ⴔ7Ⴓ2ႴeႳ6Ⴔ4aႳrcႴ4ႳhႴ3ႳdႴ3Ⴓ3bႴ4Ⴓ2nႴ6ႳcႴ4Ⴓ1ႴfႳcႴ4Ⴓ1kႴ8ႳaႴ6Ⴓ14Ⴔ8ႳuႴ2Ⴓ2Ⴔ26Ⴓ9g",
      "ႴcႳeႴ2ႳdႴ3Ⴓ9Ⴔ7Ⴓ1aႴ1Ⴓ7Ⴔ8ႳeႴ4Ⴓ9Ⴔ7Ⴓ9Ⴔ7Ⴓ43Ⴔ1Ⴓ1jႴ11ႳaႴsmÕwyoႴwÕ37eႴ6Õ66Ⴔ2Õ4g2ႴeÕ5rlႴ2e7Õf2Ⴔ15uÕ",
      "3t7Ⴔ5Õ38gႴf975Ⴓ1ႴuႳ2oႴ3kႲ6oႴ"])

/-- The mark of each script and its names.  Code points that have no script yet share a mark without
a name. -/
def scriptNames : List (Char × List String) :=
  [('A', ["adlam", "adlm"]),
    ('B', ["aghb", "caucasianalbanian"]),
    ('C', ["ahom"]),
    ('D', ["arab", "arabic"]),
    ('E', ["armi", "imperialaramaic"]),
    ('F', ["armenian", "armn"]),
    ('G', ["avestan", "avst"]),
    ('H', ["bali", "balinese"]),
    ('I', ["bamu", "bamum"]),
    ('J', ["bass", "bassavah"]),
    ('K', ["batak", "batk"]),
    ('L', ["beng", "bengali"]),
    ('M', ["bhaiksuki", "bhks"]),
    ('N', ["bopo", "bopomofo"]),
    ('O', ["brah", "brahmi"]),
    ('P', ["brai", "braille"]),
    ('Q', ["bugi", "buginese"]),
    ('R', ["buhd", "buhid"]),
    ('S', ["cakm", "chakma"]),
    ('T', ["canadianaboriginal", "cans"]),
    ('U', ["cari", "carian"]),
    ('V', ["cham"]),
    ('W', ["cher", "cherokee"]),
    ('X', ["chorasmian", "chrs"]),
    ('Y', ["copt", "coptic", "qaac"]),
    ('Z', ["cpmn", "cyprominoan"]),
    ('À', ["cprt", "cypriot"]),
    ('Á', ["cyrillic", "cyrl"]),
    ('Â', ["deva", "devanagari"]),
    ('Ã', ["diak", "divesakuru"]),
    ('Ä', ["dogr", "dogra"]),
    ('Å', ["deseret", "dsrt"]),
    ('Æ', ["dupl", "duployan"]),
    ('Ç', ["egyp", "egyptianhieroglyphs"]),
    ('È', ["elba", "elbasan"]),
    ('É', ["elym", "elymaic"]),
    ('Ê', ["ethi", "ethiopic"]),
    ('Ë', ["geor", "georgian"]),
    ('Ì', ["glag", "glagolitic"]),
    ('Í', ["gong", "gunjalagondi"]),
    ('Î', ["gonm", "masaramgondi"]),
    ('Ï', ["goth", "gothic"]),
    ('Ð', ["gran", "grantha"]),
    ('Ñ', ["greek", "grek"]),
    ('Ò', ["gujarati", "gujr"]),
    ('Ó', ["gurmukhi", "guru"]),
    ('Ô', ["hang", "hangul"]),
    ('Õ', ["han", "hani"]),
    ('Ö', ["hano", "hanunoo"]),
    ('Α', ["hatr", "hatran"]),
    ('Β', ["hebr", "hebrew"]),
    ('Γ', ["hira", "hiragana"]),
    ('Δ', ["anatolianhieroglyphs", "hluw"]),
    ('Ε', ["hmng", "pahawhhmong"]),
    ('Ζ', ["hmnp", "nyiakengpuachuehmong"]),
    ('Η', ["hung", "oldhungarian"]),
    ('Θ', ["ital", "olditalic"]),
    ('Ι', ["java", "javanese"]),
    ('Κ', ["kali", "kayahli"]),
    ('Λ', ["kana", "katakana"]),
    ('Μ', ["kawi"]),
    ('Ν', ["khar", "kharoshthi"]),
    ('Ξ', ["khmer", "khmr"]),
    ('Ο', ["khoj", "khojki"]),
    ('Π', ["khitansmallscript", "kits"]),
    ('Ρ', ["kannada", "knda"]),
    ('Σ', ["kaithi", "kthi"]),
    ('Τ', ["lana", "taitham"]),
    ('Υ', ["lao", "laoo"]),
    ('Φ', ["latin", "latn"]),
    ('Χ', ["lepc", "lepcha"]),
    ('Ψ', ["limb", "limbu"]),
    ('Ω', ["lina", "lineara"]),
    ('А', ["linb", "linearb"]),
    ('Б', ["lisu"]),
    ('В', ["lyci", "lycian"]),
    ('Г', ["lydi", "lydian"]),
    ('Д', ["mahajani", "mahj"]),
    ('Е', ["maka", "makasar"]),
    ('Ж', ["mand", "mandaic"]),
    ('З', ["mani", "manichaean"]),
    ('И', ["marc", "marchen"]),
    ('Й', ["medefaidrin", "medf"]),
    ('К', ["mend", "mendekikakui"]),
    ('Л', ["merc", "meroiticcursive"]),
    ('М', ["mero", "meroitichieroglyphs"]),
    ('Н', ["malayalam", "mlym"]),
    ('О', ["modi"]),
    ('П', ["mong", "mongolian"]),
    ('Р', ["mro", "mroo"]),
    ('С', ["meeteimayek", "mtei"]),
    ('Т', ["mult", "multani"]),
    ('У', ["myanmar", "mymr"]),
    ('Ф', ["nagm", "nagmundari"]),
    ('Х', ["nand", "nandinagari"]),
    ('Ц', ["narb", "oldnortharabian"]),
    ('Ч', ["nabataean", "nbat"]),
    ('Ш', ["newa"]),
    ('Щ', ["nko", "nkoo"]),
    ('Ъ', ["nshu", "nushu"]),
    ('Ы', ["ogam", "ogham"]),
    ('Ь', ["olchiki", "olck"]),
    ('Э', ["oldturkic", "orkh"]),
    ('Ю', ["oriya", "orya"]),
    ('Я', ["osage", "osge"]),
    ('Ա', ["osma", "osmanya"]),
    ('Բ', ["olduyghur", "ougr"]),
    ('Գ', ["palm", "palmyrene"]),
    ('Դ', ["pauc", "paucinhau"]),
    ('Ե', ["oldpermic", "perm"]),
    ('Զ', ["phag", "phagspa"]),
    ('Է', ["inscriptionalpahlavi", "phli"]),
    ('Ը', ["phlp", "psalterpahlavi"]),
    ('Թ', ["phnx", "phoenician"]),
    ('Ժ', ["miao", "plrd"]),
    ('Ի', ["inscriptionalparthian", "prti"]),
    ('Լ', ["rejang", "rjng"]),
    ('Խ', ["hanifirohingya", "rohg"]),
    ('Ծ', ["runic", "runr"]),
    ('Կ', ["samaritan", "samr"]),
    ('Հ', ["oldsoutharabian", "sarb"]),
    ('Ձ', ["saur", "saurashtra"]),
    ('Ղ', ["sgnw", "signwriting"]),
    ('Ճ', ["shavian", "shaw"]),
    ('Մ', ["sharada", "shrd"]),
    ('Յ', ["sidd", "siddham"]),
    ('Ն', ["khudawadi", "sind"]),
    ('Շ', ["sinh", "sinhala"]),
    ('Ո', ["sogd", "sogdian"]),
    ('Չ', ["oldsogdian", "sogo"]),
    ('Պ', ["sora", "sorasompeng"]),
    ('Ջ', ["soyo", "soyombo"]),
    ('Ռ', ["sund", "sundanese"]),
    ('Ս', ["sylo", "sylotinagri"]),
    ('Վ', ["syrc", "syriac"]),
    ('Տ', ["tagb", "tagbanwa"]),
    ('Ր', ["takr", "takri"]),
    ('Ց', ["taile", "tale"]),
    ('Ւ', ["newtailue", "talu"]),
    ('Փ', ["tamil", "taml"]),
    ('Ք', ["tang", "tangut"]),
    ('Օ', ["taiviet", "tavt"]),
    ('Ֆ', ["telu", "telugu"]),
    ('Ⴀ', ["tfng", "tifinagh"]),
    ('Ⴁ', ["tagalog", "tglg"]),
    ('Ⴂ', ["thaa", "thaana"]),
    ('Ⴃ', ["thai"]),
    ('Ⴄ', ["tibetan", "tibt"]),
    ('Ⴅ', ["tirh", "tirhuta"]),
    ('Ⴆ', ["tangsa", "tnsa"]),
    ('Ⴇ', ["toto"]),
    ('Ⴈ', ["ugar", "ugaritic"]),
    ('Ⴉ', ["vai", "vaii"]),
    ('Ⴊ', ["vith", "vithkuqi"]),
    ('Ⴋ', ["wara", "warangciti"]),
    ('Ⴌ', ["wancho", "wcho"]),
    ('Ⴍ', ["oldpersian", "xpeo"]),
    ('Ⴎ', ["cuneiform", "xsux"]),
    ('Ⴏ', ["yezi", "yezidi"]),
    ('Ⴐ', ["yi", "yiii"]),
    ('Ⴑ', ["zanabazarsquare", "zanb"]),
    ('Ⴒ', ["inherited", "qaai", "zinh"]),
    ('Ⴓ', ["common", "zyyy"])]

def script? (name : String) : Option Char :=
  (scriptNames.find? (·.2.contains name)).map (·.1)

end BinaryCoverage.Unicode
