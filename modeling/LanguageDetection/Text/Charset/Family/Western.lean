import LanguageDetection.Text.Charset.Family

namespace LanguageDetection.Text.Charset.Family

def western : Family := .latin "àáâãäåæçèéêëìíîïñòóôõöøùúûüÿœßšž·" "
_èCéCäDåDàEøFüFöGáIêKæLúLíPîPçQóQôXœXšX
açBñEíHßJïMîNóNúOëTšUéWôXüX
båKäLæLöLøLèNéNüNóPâQùRúRáSíWàXêXœX
cíJêKóKéLòNœPáQúQôSàTãTèTâW
déFìFäHóJíKãMåMøPèQîQúQžQáRòRüRàTêTöTôUûX
eñIßKçMíMäOåRóSàTïUöWøW
föCøDüFíHäKåKèMéMæNúPãXêX
gåGúJéKöKüLøMãOäOèQáRóTùUàVíWâXæX
häFéGöGøGãKüKåMâNôNáOæOèQúRíWõX
ióAùDçGèGàIãJéJòJñLäMßMêQáRúRâXšX
jäDøDæIöIóOüOàPáQãQéW
køDäEöGüHæMåOéQáTëUíV
läBæFíG·GéIøIöJáKåKèKòKàLìLóLüMôPúPâTêUùU
mäEåEáFéGüGöHàJãJæKøKóLúLêMíNòOèPôQõSâXûX
néFäGçHãIåIíJæKòKóMøMúMèOüOáPöQêSàUìXîXœX
oßLùNñPèQûSëTéUãVçVïVàXîX
påBäFéKàLóMáNèNòNøNãOöOúOíPçUâVæWêXõX
qüV
ràCéCüDíEäFåFáGèGìGøGæHòHãIöJêKóMçNúOâQùRôTûX
säCøFåGãHìHéIüIáJóKùLæMíMúMòNöNèOûPœPõTàU
tàAäAéCáEøHüHíIóIòKùLãMåMèMöMæNôOšQìUõUúUâVêV
uéIßIèJòJíKçLáNêOñRïUàVöXšX
väDæHåIöLéMáOóPíQàRãTìUèWôXœX
wäJüKöNáUóW
xòMàNíNéQáT
yöGàNäPáX
zäLéMáNóOöOãPúPôQüVàXèX
à_AnHrKvNcOsPlQtQfRmTgVbW
ánC_FsFrIfLiLlLgMtMvMpOjPmQbRqRcTzThUdVuWñW
âtLnOcPmVlX
ãoA_KeL
ä_AnArAäAhFiFmFlGsGtGyGkHcIgKjKuKfLvLpMdOeSßSbTxX
å_ArBdEgHlHnHtHkIeJsJbMvNoQmX
ærCnGlHsJgLtMvNbOdOkOiU_V
çãBaHõHoJàO_PuPúP
è_ArFsGnJmKvLcMtObPdPgSqSxWzWlX
ésA_CeCrEtEcGlHgInImJvKdLiLfMpMqMéMxNaPjPoQbRâUuVzW
êtGsH_MmMnOcX
ëlQ_V
ì_BcX
íaCnGsG_HtIcKbLoLpMdNlNmOvOePfPrPxPzPgQqRñWçX
înNlOtP_XmX
ïsR_TtVcWdXnXqXrXvX
ñoEaGePiRáTíW
ò_CpKnMrMxOdQlSmX
ó_AnArHlJsKdMmNvPxPbUpUgWiWñW
ônJtMpPmU_XlX
õeG
örBlHnHsHtIdJgJpJvJaLcLyLßLkM_NbNfNhNiNjOmPöS
ørAdDbFeGsGyGnH_IjIpKlLtNhOvOkSgTmU
ù_C
únGlKaLsL_McNmNbOtPñUrVdWjX
ûrPtSlW_X
übDrDnEcFhGdIlJsJfKßLiMeOgPtP_QmWíW
œuL
ßeE_LtLiObPsPlTmW
šaTiUeVkXuX
žiTaU
·lG"

end LanguageDetection.Text.Charset.Family
