import LanguageDetection.Text.Charset.Family

namespace LanguageDetection.Text.Charset.Family

def cyrillicAlphabets : List String := [
  "абвгдежзийклмнопрстуфхцчшщъыьэюяё",
  "абвгґдеєжзиіїйклмнопрстуфхцчшщьюя",
  "абвгдђежзијклљмнњопрстћуфхцчџш",
  "абвгдежзийклмнопрстуфхцчшщъьюяѝ",
  "абвгдеёжзійклмнопрстуўфхцчшыьэюя",
  "абвгдѓежзѕијклљмнњопрстќуфхцчџшѐѝ"]

def besideDze : String := "аеиоувнј"

/-- Whether two letters are from languages that differ, or one is 'ѕ' in a strange place. -/
def cyrillicNeverMeet (former latter : Char) : Bool :=
  (former == 'ѕ' && !besideDze.contains latter)
    || (former != 'ѕ' && latter == 'ѕ' && !besideDze.contains former)
    || haveNoCommon cyrillicAlphabets former latter

def cyrillic : Family := .nonLatin
  "абвгдежзийклмнопрстуфхцчшщъыьэюяёђѓєѕіїјљњћќўџґ" "
_пGсHвIиIнIгJдJкJуJмKјKаLбLоLрLзMтMіMеNлNфOчOхPўPйQяQжRцRшRщRћSќSэTєTїTѓUѕUюVёVђVљWґWњXџX
aеX
а_DнHтHлIрIдJмKвLйLсLяLеMкMјMўMбNгNєNзOцOпPаQхQїQњQчRоSшSюSжTђTуVфVщVіVиWљX
биMаNоNеOъOрPуPыPіQлS_TсUљUнVщVвWдXэXяX
ваIоJіJ_KеKиLыNлOрOсOнPъPяQмSуSтTдUчUёVгWьWжXпXхXцXэX
гоJаLрLлPиQіQ_RуRеSэSдTвVтW
даJеKоKзLиLнNыN_PрPуPіPжQвSсTъTњTкUлUэUмWбXпXцX
е_FнHрJдKлKтLкMсMмNвOзOйOћOоPљPгQјQбRцRчRеSшSўSњTжUпUхVаXщXюXїX
жеPнQыQдRиRаSоT_VбVуVъW
заLиMеNіO_SнSыSбTдTлTмTоTпTьTяTвUгVтVуVкWсWхXъX
и_EнJтKсLяLјLйMкMлMмMеOрOхOчOшOћOвPзPоPиQцQгRаSбSдSжSщSпTюTљTњTєVфWїX
й_JсOлQнRоRшSдUбVмWтWкX
каFиGоIіI_MуNрPеQлRъRвTсTтUњUнVмWшX
ліIаJиJеKьKоLяN_OуPгQюRжTнTсTтTкUыUјUмVлWъWбXдXзXёX
маK_MеMиMоMіOуQыQбSяSјTлUнUпUрUьUдVмVъVсWэW
наGиJоJіJсK_LеLнLыMяNдOгPкPтPьQуSцSшUфWчWёWжXъXэX
о_GтIвJлJсJгKдLбMмMнMрMўMйNпOжPзPкPјPиQїQчRаSеSфSђSшTюTхUќUяVѓVћVщWэWёWљWцXєX
поJрJаKіNеOиPсRыRлSуTјU_VнWшWъX
раGеJиJоJыKуMіN_PэPсQтQкRнRяRвSгSбTмTдUѓUжVзVъVпWфWцWчWшWьWйXюX
скGтIеJьJиMоMаNяNіNвOлOуO_PсPцPрQъQмRнSпSхTэWыXёX
таHеIоI_JиJьLвNрNыNсOіOуPэQъRяSкTнTтTбVдXлXпXчXюX
у_IгOсOкPрPнQтQвRжRлRчRаSдSмSюSбTйTпTхTшTћUќUзVоVщVеWцWэXџX
фаOиRіSрTеVуVоW
х_PоPаQиSіTлVсVтWуWеXмXрX
цьNіNиOаPыPеQкSрSцS_TвVяVоWтWъXэXюX
чаMеMыOиPкRнSтS_TуTіTоUвVэX
штNеQкS_TиTоTыTаVлVнVіVуWьXэXљXћX
щеPоRаTиV_XуX
ърOлQдRтRвTнUжVзVпVсVгWщWкXмXцX
ы_JлPцPяPмQнQсQйRкRтRўSеTхTвUіUрVбWдWюWгXчX
ькJ_KсOнQмRоTвUеUшUзVяVюXёX
энQрRтRйS_UкUлUсVцVаXдXмX
ю_OтRдSжUщVвX
я_HнPтPлQрSвTмTбUдUеUзUкUсUйVцVчVжWгXпXхXюXўX
ёнSсUвWмWтW_XўX
ђеQаT
ѓоTаUиU
є_OвUтUюVмXїX
ѕвT
і_HнKяLвMдMкMйNлNсNтOцOхPчRмSрSбTгTєUїUаVзVпVшVюVўVоWіX
ї_QнRхUйVвWїWжXмX
јеIаJ_QсQиRуRнTдUзVпVвWоXтX
љеPаSуV_XиXнXоX
њеPаQиSоX
ћеO_QиQаTуW
ќеQиS
ў_LсOрRвSнSкTгWдW
џаWбXиX
ґаV" cyrillicNeverMeet

end LanguageDetection.Text.Charset.Family
