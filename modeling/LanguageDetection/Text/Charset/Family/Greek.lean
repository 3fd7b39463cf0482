import LanguageDetection.Text.Charset.Family

namespace LanguageDetection.Text.Charset.Family

/-- Whether two letters never meet: nothing follows a final sigma, and accents do not touch. -/
def greekNeverMeet (former latter : Char) : Bool :=
  former == 'ς' || (isAccented former && isAccented latter)
where
  isAccented (c : Char) : Bool := "άέήίόύώΐΰ".contains c

def greek : Family := .nonLatin
  "αβγδεζηθικλμνξοπρςστυφχψωάέήίόύώϊϋΐΰ" "
_τIπJσJαKεKκKμKγMδNοNχNνOηPθQλQέQόQφRάRβSιUυUήUξWρWζX
α_GιJνKτMλNρNμOςOπPσQίQγSθTκTφTβUυUδVζWξWϊWχXύX
βαTρTάUεWιXέX
γιOρPαSεSκSοSίUλWυWάWέWγX
δεOιPοQαSρVυVέWύWώWηXάXίXόX
ειK_LρLίLτNνOλPςPκQπQσRυRύRγTμTδVξVχXωX
ζεRαWηXιXωXίX
η_KςNνOσRμSτVθWκWχWλXρX
θεRαTηVρVέVοWάWήWόWιXμXυX
ι_HκLαMοNνOσPςQάQλSδTρTόTμUώUβVεVτVγXζXχX
καJοOάPεQόQήRιSρSτTηVίV_WλWκXυXέX
λοNεOιOηPλPαQάQίTύTέUώVήWκXμX
μεLαMπPοQιRμSέSόSηUάUήUφVίW
ν_JαKιOοOτOεQηQήQίSδTνUώUθVάVόVγWυWέWωX
ξεUηWιW
ο_IυJιMνNλOςOύOμQγRρRτRσSπTίUδVθVκVαXβXχX
ποKαNρNεOόPιTάTέTίUτVηWλWωX
ραLιMοMχPάPίPόPεQέQωRγSηSήTώUμWθXκXνXσXτX
ς_G
στJεMαPηQοQιSμSσSπTκUίUυVφVχVύVάWόX
τοHαJηLεMιMρOήQάRόSσTέUίUώVζWυWωW_X
υ_NρRςRνSσSτSπTγUαVχWβXλXμXάX
φοUαVήVεXιXάXέXίXόX
χεNαRρSιTώTθWοWηXτXωXήXύX
ωνSρSπUτUσV_WςW
ά_OνOδRλSρSκTμTτTζUσUθWβXγXεXφX
ένQρQπSςSχTαUλUκVξWτWζXμXσX
ή_PςRσSνUκVμVθWλWρWπXτX
ίαNνOοQτRκSσS_TδUπUζVωVλWρWγX
ό_OτPςQλRνSγVπVρVδXμXσX
ύνSτSοTρT_UδVγXθXμXσX
ώνSρS_TσTτV
ϊκX" greekNeverMeet

end LanguageDetection.Text.Charset.Family
