import BinaryCoverage.Unicode.Script

/-!
# Script extensions

A code point may be used in several scripts beside the one to which it belongs.  A code point of
one script has the mark of that script here; a small letter marks a group of scripts.  This file
defines:

* `scriptExtensionMap` — the mark of every code point;
* `usesScript` — whether a character is used in the script with a given mark.
-/

namespace BinaryCoverage.Unicode

def scriptExtensionMap : CodeMap := .ofText
  (String.join
    ["0Ⴓ1tΦqႳ6ΦqႳ1bΦ1ႳfΦ1Ⴓ5ΦnႳ1ΦvႳ1ΦchႳ13Φ5Ⴓ5N2ႳkႲ1uÑ1Ⴒ2Ñ1ႲtΦdÑ4Ⴓ1Ñ3Ⴔ2Ñ4Ⴓ1Ñ1Ⴔ4Ñ1Ⴓ1Ñ1Ⴓ1Ñ3Ⴔ1Ñ1Ⴔ1Ñk",
      "Ⴔ1Ñ1rYeÑgÁ3nд1в1г2в1Á4oႴ1F12Ⴔ2F1eႴ2F3Ⴔ1Β1jႴ8ΒrႴ4Β6ႴbD5Ⴓ1D6ζ1Deζ1θ1D2β1Dwα1DaηbDaκaD6η1D2rδ",
      "1D8Ⴓ1DyՎeႴ1Վ1oႴ2Վ3D1cႢ1eႴeЩ1nႴ2Щ3Կ1aႴ2ԿfႴ1ЖsႴ2Ж1Ⴔ1ՎbႴ5DvႴ1D2Ⴔ6D22Ⴓ1DtÂ29ο1π1Ⴒ2Âfξ1ν1йaÂgL4",
      "Ⴔ1L8Ⴔ2L2Ⴔ2LmႴ1L7Ⴔ1L1Ⴔ3L4Ⴔ2L9Ⴔ2L2Ⴔ2L4Ⴔ8L1Ⴔ4L2Ⴔ1L5Ⴔ2λaLfႴ2Ó3Ⴔ1Ó6Ⴔ4Ó2Ⴔ2ÓmႴ1Ó7Ⴔ1Ó2Ⴔ1Ó2Ⴔ1Ó2Ⴔ2Ó1",
      "Ⴔ1Ó5Ⴔ4Ó2Ⴔ2Ó3Ⴔ3Ó1Ⴔ7Ó4Ⴔ1Ó1Ⴔ7фaÓ7ႴaÒ3Ⴔ1Ò9Ⴔ1Ò3Ⴔ1ÒmႴ1Ò7Ⴔ1Ò2Ⴔ1Ò5Ⴔ2ÒaႴ1Ò3Ⴔ1Ò3Ⴔ2Ò1ႴfÒ4Ⴔ2уaÒ2Ⴔ7Ò7Ⴔ1",
      "Ю3Ⴔ1Ю8Ⴔ2Ю2Ⴔ2ЮmႴ1Ю7Ⴔ1Ю2Ⴔ1Ю5Ⴔ2Ю9Ⴔ2Ю2Ⴔ2Ю3Ⴔ7Ю3Ⴔ4Ю2Ⴔ1Ю5Ⴔ2ЮiႴaՓ2Ⴔ1Փ6Ⴔ3Փ3Ⴔ1Փ4Ⴔ3Փ2Ⴔ1Փ1Ⴔ1Փ2Ⴔ3Փ2Ⴔ3Փ3",
      "Ⴔ3ՓcႴ4Փ5Ⴔ3Փ3Ⴔ1Փ4Ⴔ2Փ1Ⴔ6Փ1ႴeтeՓ7Ⴔ5ՖdႴ1Ֆ3Ⴔ1ՖnႴ1ՖgႴ2Ֆ9Ⴔ1Ֆ3Ⴔ1Ֆ4Ⴔ7Ֆ2Ⴔ1Ֆ3Ⴔ2Ֆ1Ⴔ2Ֆ4Ⴔ2ՖaႴ7Ֆ9ΡdႴ1Ρ3Ⴔ1",
      "ΡnႴ1ΡaႴ1Ρ5Ⴔ2Ρ9Ⴔ1Ρ3Ⴔ1Ρ4Ⴔ7Ρ2Ⴔ6Ρ2Ⴔ1Ρ4Ⴔ2шaႴ1Ρ3ႴcНdႴ1Н3Ⴔ1Н1fႴ1Н3Ⴔ1Н6Ⴔ4НgႴ2НqႴ1Շ3Ⴔ1ՇiႴ3ՇoႴ1Շ9Ⴔ1Շ",
      "1Ⴔ2Շ7Ⴔ3Շ1Ⴔ4Շ6Ⴔ1Շ1Ⴔ1Շ8Ⴔ6ՇaႴ2Շ3ႴcႣ1mႴ4Ⴓ1ႣsႴ11Υ2Ⴔ1Υ1Ⴔ1Υ5Ⴔ1ΥoႴ1Υ1Ⴔ1ΥnႴ2Υ5Ⴔ1Υ1Ⴔ1Υ7Ⴔ1ΥaႴ2Υ4ႴwႤ20",
      "Ⴔ1Ⴄ10Ⴔ4Ⴄ13Ⴔ1Ⴄ10Ⴔ1ႤfႴ1Ⴄ7Ⴓ4Ⴄ2Ⴔ11У1sψaУ2eË12Ⴔ1Ë1Ⴔ5Ë1Ⴔ2Ë17с1Ë4Ô74Ê21Ⴔ1Ê4Ⴔ2Ê7Ⴔ1Ê1Ⴔ1Ê4Ⴔ2Ê15Ⴔ1Ê4Ⴔ",
      "2ÊxႴ1Ê4Ⴔ2Ê7Ⴔ1Ê1Ⴔ1Ê4Ⴔ2ÊfႴ1Ê1lႴ1Ê4Ⴔ2Ê1vႴ2ÊwႴ3ÊqႴ6W2eႴ2W6Ⴔ2ThsЫtႴ3Ծ23Ⴓ3ԾbႴ7ႡmႴ9Ⴁ1Ölχ2Ⴔ9RkႴcՏd",
      "Ⴔ1Տ3Ⴔ1Տ2ႴcΞ2mႴ2ΞaႴ6ΞaႴ6П2ь2П1ь1ПkႴ6П2hႴ7П17Ⴔ5T1yႴaΨvႴ1ΨcႴ4ΨcႴ4Ψ1Ⴔ3ΨcՑuႴ2Ց5ႴbՒ18Ⴔ4ՒqႴ6ՒbႴ3Ւ",
      "2ΞwQsႴ2Q2Τ1rႴ1ΤtႴ2ΤbႴ6ΤaႴ6ΤeႴ2ႲvႴ1dH25Ⴔ3H1bႴ1Ռ1sK1gႴ8K4Χ1kႴ3ΧfႴ3Χ3Ь1cÁ9Ⴔ7Ë17Ⴔ2Ë3Ռ8Ⴔ8ρ1Â1ρ1",
      "к1Â1μ2п1μ1п1н1Â1п2Â2п1μ1Â7о1μ1Â2μ1Â4ς1к1л1μ2L1к2Х1Ⴔ5Φ12Ñ5Á1Φ1dÑ5Φ4Ñ5ΦdÁ1Φ1yÑ3Ⴒ1iе1Ⴒ1Վ1Ⴒ5Φ7",
      "4ÑmႴ2Ñ6Ⴔ2Ñ12Ⴔ2Ñ6Ⴔ2Ñ8Ⴔ1Ñ1Ⴔ1Ñ1Ⴔ1Ñ1Ⴔ1ÑvႴ2Ñ1hႴ1ÑfႴ1ÑeႴ2Ñ6Ⴔ1ÑjႴ2Ñ3Ⴔ1Ñ9Ⴔ1ႳcႲ2Ⴓxъ1Ⴓ1hႴ1ႳbΦ1Ⴔ2ႳbΦ1",
      "ႳfႴ1ΦdႴ3ႳxႴfႲwм1ႴfႳ12Ñ1Ⴓ3Φ2Ⴓ6Φ1ႳrΦ1ႳhΦ15Ⴓ3Ⴔ4ႳifႴpႳbႴlႳpsP74ႳhgႴ2ႳwႴ1Ⴓ2xÌ2oΦwY38Ⴔ5Y7Ë12Ⴔ1Ë1",
      "Ⴔ5Ë1Ⴔ2Ⴀ1kႴ7Ⴀ2ႴeႠ1ÊnႴ9Ê7Ⴔ1Ê7Ⴔ1Ê7Ⴔ1Ê7Ⴔ1Ê7Ⴔ1Ê7Ⴔ1Ê7Ⴔ1Ê7Ⴔ1ÁwႳ1vв1ႳqႴyÕqႴ1Õ2hႴcÕ5yႴqႳcႴ4Ⴓ1υ2τ1Ⴓ1",
      "Õ3υaႳ1τ1υ8τ4Ⴓ1Õ9σ4Ô2τ1ч5Ⴓ1τ1Õ4х2Õ2Ⴔ1Γ2eႴ2ч4Γ3ч1Λ2iυ1ч1Λ3Ⴔ5N17Ⴔ1Ô2mႴ1ÕgNwÕ10ႴcΛgÔvႴ1Õ14ႳoÔv",
      "Ⴓ1Õ1dႳfÕcႳ4Λ1bÕ1Λ2gÕpႳaÕ5Ⴓ2oÕvႳ1Õ534Ⴓ1sÕg74ႰwdႴ3Ⴐ1jႴ9Б1cႩ8cႴkÁ1bв1Á1cI2gႴ8ц8ႳqΦ2uႳ3Φ1sႴ5Φ2",
      "Ⴔ1Φ1Ⴔ1Φ5ႴoΦeՍ19Ⴔ3з3и3ж4Ⴔ6Զ1kႴ8Ձ1yႴ8ՁcႴ6Âhμ1Â1р1ÂcΚ1aщ1Κ1Լ10ႴbԼ1ÔtႴ3Ι26Ⴔ1φ1ΙaႴ4Ι2УvႴ1V1jႴ9V",
      "eႴ2VaႴ2V4УwՕ1vႴoՕ5СnႴaÊ6Ⴔ2Ê6Ⴔ2Ê6Ⴔ9Ê7Ⴔ1Ê7Ⴔ1Φ17Ⴓ1Φ9Ñ1Φ4Ⴓ2Ⴔ4W28С1aႴ2СaႴ6Ô8mcႴcÔnႴ4Ô1dႴ6isÕa6Ⴔ",
      "2Õ2yႴ12Φ7ႴcF5Ⴔ5ΒqႴ1Β5Ⴔ1Β1Ⴔ1Β2Ⴔ1Β2Ⴔ1ΒaD37ႴgDa3ε2D28Ⴔ2D1iႴ7D1ႴwD2ι1Daι1D2ႲgႳaႴ6ႲeÁ2Ⴓlτ2ႳcႴ1Ⴓ",
      "jႴ1Ⴓ4Ⴔ4D5Ⴔ1D3rႴ2Ⴓ1Ⴔ1ႳwΦqႳ6ΦqႳ6υ5Λaч1Λ19ч2ÔvႴ3Ô6Ⴔ2Ô6Ⴔ2Ô6Ⴔ2Ô3Ⴔ3Ⴓ7Ⴔ1Ⴓ7ႴaႳ5Ⴔ2АcႴ1АqႴ1АjႴ1А2Ⴔ1А",
      "fႴ2АeႴyА3fႴ5б2а1Ⴔ4ω19Ⴔ3а9Ñ27Ⴔ1ႳdႴ3Ñ1Ⴔ1bႳ19Ⴒ1Ⴔ3mВtႴ3U1dႴfγsႴ4Θ10Ⴔ9Θ3ÏrႴ5Ե17Ⴔ5ႨuႴ1Ⴈ1Ⴍ10Ⴔ4ႭeႴ",
      "16Å28Ճ1cԱuႴ2ԱaႴ6Я10Ⴔ4Я10Ⴔ4È14Ⴔ8B1gႴbB1ႪbႴ1ႪfႴ1Ⴊ7Ⴔ1Ⴊ2Ⴔ1ႪbႴ1ႪfႴ1Ⴊ7Ⴔ1Ⴊ2Ⴔ1vΩ8nႴ9ΩmႴaΩ8ႴoΦ6Ⴔ1Φ1",
      "6Ⴔ1Φ9Ⴔ1xÀ6Ⴔ2À1Ⴔ1À18Ⴔ1À2Ⴔ3À1Ⴔ2À1EmႴ1E9ԳwЧvႴ8Ч9Ⴔ1cΑjႴ1Α2Ⴔ5Α5ԹsႴ3Թ1ГqႴ5Г1Ⴔ1sМwЛoႴ4ЛkႴ2Л1aΝ4Ⴔ1",
      "Ν2Ⴔ5Ν8Ⴔ1Ν3Ⴔ1ΝtႴ2Ν3Ⴔ4ΝaႴ7Ν9Ⴔ7ՀwЦwႴwЗ13Ⴔ4З7ы1З4Ⴔ9G1iႴ3G7ԻmႴ2Ի8ԷjႴ5Է8ԸiႴ7Ը4ႴcԸ7Ⴔ28Э21Ⴔ1jΗ1fႴd",
      "Η1fႴ7Η6Խ14Ⴔ8ԽaႴ86DvႴ1Ⴏ16Ⴔ1Ⴏ3Ⴔ2Ⴏ2Ⴔ23D3Չ14Ⴔ8Ո16ႴmԲqႴ12XsႴkÉnႴ9O26Ⴔ4O10Ⴔ9O1Σ1vႴaΣ1Ⴔ2ՊpႴ7ՊaႴ6S",
      "1hႴ1SiႴ8Д13Ⴔ9Մ2oႴ1ՇkႴbΟiႴ1Ο1bႴ1qТ7Ⴔ1Т1Ⴔ1Т4Ⴔ1ТfႴ1ТbႴ6Ն1nႴ5ՆaႴ6Ð1т1Ð1т1Ⴔ1Ð8Ⴔ2Ð2Ⴔ2ÐmႴ1Ð7Ⴔ1Ð2Ⴔ",
      "1Ð5Ⴔ1т2Ð8Ⴔ2Ð2Ⴔ2Ð3Ⴔ2Ð1Ⴔ6Ð1Ⴔ5Ð7Ⴔ2Ð7Ⴔ3Ð5Ⴔ3vШ2kႴ1Ш5ႴuႥ20Ⴔ8ႥaႴ4mՅ1iႴ2Յ12ႴyО1xႴbОaႴ6ПdႴjՐ1mႴ6ՐaႴ",
      "1iCrႴ2CfႴ4CnႴ55Ä1oႴ2sႫ2bႴcႫ1Ã7Ⴔ2Ã1Ⴔ2Ã8Ⴔ1Ã2Ⴔ1ÃuႴ1Ã2Ⴔ2ÃcႴ9ÃaႴ1yХ8Ⴔ2Х1aႴ2ХbႴrႱ20Ⴔ8Ջ2bႴdTgԴ1lႴ",
      "7ÂaႴ6uM9Ⴔ1M19Ⴔ1MeႴaMtႴ3ИwႴ2ИmႴ1ИeႴ21Î7Ⴔ1Î2Ⴔ1Î18Ⴔ3Î1Ⴔ1Î2Ⴔ1Î9Ⴔ8ÎaႴ6Í6Ⴔ1Í2Ⴔ1Í11Ⴔ1Í2Ⴔ1Í6Ⴔ7ÍaႴ8",
      "mЕpႴ7ΜhႴ1Μ15Ⴔ3ΜsႴ2eБ1ႴfՓgт2Փ1т1ՓuႴdՓ1ႮpmႴ2uႮ33Ⴔ1Ⴎ5ႴbႮ5gႴ218Z2rႴdÇuuႴ33eΔg7Ⴔ6ntIftႴ7РvႴ1РaႴ",
      "4Р2Ⴆ27Ⴔ1ႦaႴ6JuႴ2J6ႴaΕ1yႴaΕaႴ1Ε7Ⴔ1ΕlႴ5ΕjႴj4Й2jႴ2tԺ23Ⴔ4Ժ1lႴ7ԺhႴ1sՔ1Ъ1Õ2Π1ႴbÕ2ႴeՔ4qgႴ8ՔlcΠd2Ⴔ",
      "16Ք9Ⴔ6w7Λ4Ⴔ1Λ7Ⴔ1Λ2Ⴔ1Λ1Γ7zΛ3ႴfΓ1ႴtΓ3Ⴔ2Λ1ႴeΛ4Ⴔ8Ъb0Ⴔ1s4Æ2zႴ5ÆdႴ3Æ9Ⴔ7ÆaႴ2Æ8Ⴔ3mkႲ1aႴ2ႲnႴ9Ⴓ38Ⴔ1o",
      "Ⴓ6uႴaႳ13Ⴔ2Ⴓ1qႲ3ႳhႲ8Ⴓ2Ⴒ7ႳuႲ4Ⴓ1pႴlÑ1yႴ3eႳkႴcႳkႴcႳ2fႴ9ÕiႳ7Ⴔ3rႳ2dႴ1Ⴓ1zႴ1Ⴓ2Ⴔ2Ⴓ1Ⴔ2Ⴓ2Ⴔ2Ⴓ4Ⴔ1ႳcႴ1Ⴓ1",
      "Ⴔ1Ⴓ7Ⴔ1Ⴓ1tႴ1Ⴓ4Ⴔ2Ⴓ8Ⴔ1Ⴓ7Ⴔ1ႳsႴ1Ⴓ4Ⴔ1Ⴓ5Ⴔ1Ⴓ1Ⴔ3Ⴓ7Ⴔ1Ⴓ9gႴ2Ⴓ84Ⴔ2Ⴓ1eՂi4ႴfՂ5Ⴔ1ՂfႴuoΦvႴ6Φ6Ⴔ5xÌ7Ⴔ1ÌhႴ2Ì7Ⴔ",
      "1Ì2Ⴔ1Ì5Ⴔ5Á1qႴxÁ1Ⴔ34Ζ19Ⴔ3ΖeႴ2ΖaႴ4Ζ2Ⴔ8wႧvႴhႬ1mႴ5Ⴌ1ႴcwФ16ႴkmÊ7Ⴔ1Ê4Ⴔ1Ê2Ⴔ1ÊfႴ1К5hႴ2КgႴ15A24Ⴔ4Aa",
      "Ⴔ4A2ႴltႳ1wႴ24Ⴓ1pႴ5eD4Ⴔ1DrႴ1D2Ⴔ1D1Ⴔ2D1Ⴔ1DaႴ1D4Ⴔ1D1Ⴔ1D1Ⴔ6D1Ⴔ4D1Ⴔ1D1Ⴔ1D1Ⴔ1D3Ⴔ1D2Ⴔ1D1Ⴔ2D1Ⴔ1D1Ⴔ",
      "1D1Ⴔ1D1Ⴔ1D1Ⴔ1D2Ⴔ1D1Ⴔ2D4Ⴔ1D7Ⴔ1D4Ⴔ1D4Ⴔ1D1Ⴔ1DaႴ1DhႴ5D3Ⴔ1D5Ⴔ1DhႴ1gD2Ⴔ7iႳ18Ⴔ4Ⴓ2sႴcႳfႴ2ႳfႴ1ႳfႴ1Ⴓ",
      "11ႴaႳ4uႴ1kႳqΓ1Ⴓ2ႴdႳ18Ⴔ4Ⴓ9Ⴔ7Õ2ႴeႳ6Ⴔ4aႳrcႴ4ႳhႴ3ႳdႴ3Ⴓ3bႴ4Ⴓ2nႴ6ႳcႴ4Ⴓ1ႴfႳcႴ4Ⴓ1kႴ8ႳaႴ6Ⴓ14Ⴔ8ႳuႴ2Ⴓ",
      "2Ⴔ26Ⴓ9gႴcႳeႴ2ႳdႴ3Ⴓ9Ⴔ7Ⴓ1aႴ1Ⴓ7Ⴔ8ႳeႴ4Ⴓ9Ⴔ7Ⴓ9Ⴔ7Ⴓ43Ⴔ1Ⴓ1jႴ11ႳaႴsmÕwyoႴwÕ37eႴ6Õ66Ⴔ2Õ4g2ႴeÕ5rlႴ2e7Õ",
      "f2Ⴔ15uÕ3t7Ⴔ5Õ38gႴf975Ⴓ1ႴuႳ2oႴ3kႲ6oႴ"])

/-- The marks of the scripts in each group. -/
def scriptGroups : List (Char × String) :=
  [('α', "ADЖЗԲԸԽՈՎ"), ('β', "ADЩԽՎႢႯ"), ('γ', "DY"), ('δ', "DԽ"), ('ε', "DЩ"), ('ζ', "DЩԽՎႢႯ"),
    ('η', "DՎ"), ('θ', "DՎႢ"), ('ι', "DႢ"), ('κ', "DႢႯ"), ('λ', "LSՍ"), ('μ', "LÂ"),
    ('ν', "LÂÄÍÎÐÒÓΡΨДНХЮՆՇՍՐՓՖႥ"), ('ξ', "LÂÄÍÎÐÒÓΡДНХЮՆՇՍՐՓՖႥ"), ('ο', "LÂÐÒÓΡΦНЮՄՓՖႥ"),
    ('π', "LÂÐÒÓΡΦНЮՓՖႥ"), ('ρ', "LÂÐΡ"), ('ς', "LÂÐΡХЮՖႥ"), ('σ', "NÕ"), ('τ', "NÔÕΓΛ"),
    ('υ', "NÔÕΓΛႰ"), ('φ', "QΙ"), ('χ', "RÖՏႡ"), ('ψ', "SУՑ"), ('ω', "ÀΩА"), ('а', "ÀА"),
    ('б', "ZÀА"), ('в', "ÁÌ"), ('г', "ÁΦ"), ('д', "ÁԵ"), ('е', "ÁՎ"), ('ж', "ÂÄÒÓΟΣДОՆՐႥ"),
    ('з', "ÂÄÒÓΟΡΣДНОХՆՐႥ"), ('и', "ÂÄÒÓΟΡΣДОХՆՐႥ"), ('й', "ÂÄΣД"), ('к', "ÂÐ"), ('л', "ÂÐΡ"),
    ('м', "ÂÐΦ"), ('н', "ÂΡНЮՓՖ"), ('о', "ÂХ"), ('п', "ÂՄ"), ('р', "ÂՓ"), ('с', "ËΦ"),
    ('т', "ÐՓ"), ('у', "ÒΟ"), ('ф', "ÓТ"), ('х', "ÕΓΛ"), ('ц', "ÕΦ"), ('ч', "ΓΛ"), ('ш', "ΡХ"),
    ('щ', "ΚΦУ"), ('ъ', "ΦП"), ('ы', "ЗԲ"), ('ь', "ПԶ")]

/-- Whether a mark is that of a script or of a group that the script is in. -/
def marksScript (script mark : Char) : Bool :=
  mark == script || (scriptGroups.lookup mark).any (·.toList.contains script)

def usesScript (script c : Char) : Bool := (scriptExtensionMap.get? c).any (marksScript script)

end BinaryCoverage.Unicode
