import LanguageDetection.Text.Charset.Family

namespace LanguageDetection.Text.Charset.Family

def arabicAlphabets : List String := [
  ("\u0621\u0622\u0623\u0624\u0625\u0626\u0627\u0628\u0629\u062a\u062b\u062c\u062d\u062e\u062f"
  ++ "\u0630\u0631\u0632\u0633\u0634\u0635\u0636\u0637\u0638\u0639\u063a\u0641\u0642\u0643\u0644"
  ++ "\u0645\u0646\u0647\u0648\u0649\u064a\u0640\u064b\u064c\u064d\u064e\u064f\u0650\u0651\u0652"),
  ("\u0622\u0623\u0626\u0627\u0628\u062a\u062b\u062c\u062d\u062e\u062f\u0630\u0631\u0632\u0633"
  ++ "\u0634\u0635\u0636\u0637\u0638\u0639\u063a\u0641\u0642\u0644\u0645\u0646\u0647\u0648\u0621"
  ++ "\u0624\u0629\u064a\u0643\u067e\u0686\u0698\u06a9\u06af\u0640\u064b\u064e\u064f\u0650\u0651"),
  ("\u0622\u0623\u0626\u0627\u0628\u062a\u062b\u062c\u062d\u062e\u062f\u0630\u0631\u0632\u0633"
  ++ "\u0634\u0635\u0636\u0637\u0638\u0639\u063a\u0641\u0642\u0644\u0645\u0646\u0647\u0648\u0621"
  ++ "\u0624\u067e\u0686\u0698\u06a9\u06af\u0679\u0688\u0691\u06ba\u06be\u06c1\u06d2\u06c3\u064a"
  ++ "\u0640\u064e\u064f\u0650\u0651")]

def isArabicMark (c : Char) : Bool :=
  c == '\u0640' || ('\u064b' ≤ c && c ≤ '\u0652')

/-- Whether two letters are from languages that differ, or one stands after the letter that ends
feminine nouns. -/
def arabicNeverMeet (former latter : Char) : Bool :=
  (former == '\u0629' && !isArabicMark latter) || haveNoCommon arabicAlphabets former latter

def arabicAlphabet : Alphabet where
  isLatin := false
  letters := ("\u0621\u0622\u0623\u0624\u0625\u0626\u0627\u0628\u0629\u062a\u062b\u062c\u062d\u062e"
    ++ "\u062f\u0630\u0631\u0632\u0633\u0634\u0635\u0636\u0637\u0638\u0639\u063a\u0640\u0641"
    ++ "\u0642\u0643\u0644\u0645\u0646\u0647\u0648\u0649\u064a\u064b\u064c\u064d\u064e\u064f"
    ++ "\u0650\u0651\u0652\u0679\u067e\u0686\u0698\u0688\u06af\u06a9\u0691\u06ba\u06be\u06c1"
    ++ "\u06d2\u06c0").toList.toArray
  guests := "àâçèéêëîïôùûüœ".toList

def arabic : Family := .ofRows arabicAlphabet "
_\u0627C\u06a9E\u0628G\u06c1G\u062fH\u0645H\u0623I\u0633I\u0648I\u0631J\u0644J\u067eJ\u0641K
_\u0646K\u0647K\u0622L\u062aL\u062cL\u062eL\u0634L\u0639L\u06afL\u0625M\u064aM\u0632N\u0643N
_\u062dO\u0686O\u0642P\u062bS\u063aS\u0679S\u0637T\u0630U\u0635U\u0688U\u0698V
\u0621_Q
\u0622\u0628Q\u0646Q\u0645S\u067eS\u062aU\u0633V\u0626W\u0632W\u063aW\u0641W\u0644W\u064aW
\u0623\u0633P\u0646P\u0643Q\u062dR\u062eR\u0645R\u0648S\u0631T\u0644T_U\u0635U\u064aU\u0639V
\u0623\u0647V\u0641W\u0628X\u062cX\u062fX\u0632X\u0634X\u0638X\u063aX
\u0624_X\u0627X
\u0625\u0644O\u0633T\u0646T\u062dV\u0630V\u064aV\u0631W\u062aX\u062bX\u0636X\u063aX
\u0626\u06d2M\u064aO\u0644P\u0627V\u0629W\u0631W\u0648W\u0679W_X\u0628X\u062cX\u062fX\u0633X
\u0626\u0637X\u0646X
\u0627\u0644A\u0646E_G\u0631H\u064aI\u0626J\u0632K\u0645K\u0648K\u062aL\u062fL\u0633L\u0647L
\u0627\u0628N\u06c1N\u067eO\u06a9O\u06baO\u0639P\u0686P\u0634Q\u0641Q\u0621R\u062eS\u06afS\u062dT
\u0627\u0624U\u0629U\u0635U\u0636U\u0637U\u063aU\u062cV\u0642V\u0643V\u0691V\u0638W\u0679W\u062bX
\u0628\u0627I\u0647K\u064aK_L\u0631L\u0648O\u0644P\u0632Q\u0639Q\u06c1Q\u062eR\u0633R\u0646R
\u0628\u0686R\u0691R\u06beR\u062dT\u062fU\u0642U\u0643U\u062aV\u0629W\u0634W\u0623X\u0625X\u0645X
\u0629_E
\u062a_H\u0627J\u06beM\u06d2M\u0631O\u0647O\u0646P\u0628Q\u062dQ\u0648Q\u064aQ\u062eR\u0633R
\u062a\u0634R\u0642R\u0639S\u06afS\u0637U\u0643U\u0644U\u0645U\u0623V\u063aV\u062fW\u0635W\u0638W
\u062a\u0641W\u0649W\u06c1W\u0629X\u062aX\u062cX\u0636X
\u062b\u0631S\u0645T\u0627U\u0648U\u064aU_V\u0646W\u0647X
\u062c\u0627N\u0646Q_R\u0644R\u0645R\u062fS\u0647S\u0648S\u0628T\u064aT\u06beT\u0633U\u0629V
\u062c\u0631V\u0632V\u06afV\u0634W\u062aX\u06c1X
\u062d\u062fP\u0627S\u0633S\u0648S\u064aS\u06a9S_T\u062aT\u0643T\u0631U\u0645U\u0629V\u0641W
\u062d\u0642W\u0644W\u0647W\u0628X\u0635X
\u062e\u0648N\u0627O\u062aP\u0631R\u0634S\u062fT\u0637T\u0646T\u064aT_U\u0628V\u0632V\u0644V
\u062e\u0641X
\u062f_F\u0627K\u0631K\u0647K\u064aM\u0648N\u0646P\u062fR\u0629S\u0645S\u06c1S\u062bT\u062eT
\u062f\u0633T\u0649T\u0634U\u0642V\u06a9V\u06beV\u0628W\u06afW\u0623X\u0641X\u0644X
\u0630\u0627Q\u062eT\u0647U\u0644X
\u0631_G\u0627H\u0648J\u062fK\u064aL\u0628M\u0629N\u0633O\u0646O\u06c1O\u0647P\u06afP\u062aQ
\u0631\u0641Q\u0645R\u06a9R\u062cS\u0642S\u0643S\u0634T\u06d2U\u062eV\u0632V\u0649V\u0688V\u0623W
\u0631\u0637W\u0622X\u0626X\u0639X
\u0632_L\u0627O\u0628Q\u0648Q\u0631R\u064aS\u062fT\u0634T\u0645T\u0647T\u0629W\u0633W\u0646W
\u0632\u06afW\u0621X\u0639X\u0644X
\u0633\u062aI\u0627N\u064aN\u06d2N_O\u0645P\u0643Q\u0628R\u0644R\u0646R\u06a9R\u0631S\u0637S
\u0633\u0648S\u0679T\u0691U\u0629V\u067eV\u0624W\u062eW\u062fW\u062cX\u0633X\u0647X
\u0634_O\u062aO\u0647O\u0648P\u0627Q\u0631Q\u062fR\u06afR\u0645S\u064aS\u0628T\u0633T\u06c1T
\u0634\u0639V\u0646V\u06a9V\u062cW\u063aW\u0629X
\u0635\u0631T\u0641T\u0628U\u0644U\u0648U\u062fV\u064aV\u0627W\u0645W_X\u0635X\u063aX\u0642X
\u0636\u0627T_V\u064aV\u0629X\u062dX\u0631X\u0641X\u0644X\u0646X
\u0637\u0627S\u0628T\u0642T_U\u0631U\u064aU\u0641V\u0646V\u0648V\u0644W\u0647W\u0623X\u0645X
\u0637\u0649X
\u0638_W\u0631W\u0629X\u0645X\u0646X\u0647X
\u0639\u062fN\u0631N\u0644N_O\u0627P\u0645Q\u0628R\u0629T\u0634T\u064aT\u06c1T\u062aV\u0632W
\u0639\u0636W\u0646W\u0635X\u0638X\u0647X
\u063a\u0629P\u0627Q\u0644R\u064aR_V\u0631V\u0648W\u062fX
\u0641\u064aK\u062aM_P\u0631P\u0627Q\u0629S\u0648S\u0638T\u0644T\u0636U\u0642U\u0639V\u0643V
\u0641\u0647V\u062dW\u063aW\u0625X\u0626X\u062eX\u0646X
\u0642\u064aO\u0627P_R\u0631R\u0629S\u0644S\u0628T\u0637T\u062aU\u0648U\u062fV\u0635V\u0639V
\u0642\u0647V\u0633W
\u0643\u0627M_P\u0631P\u0648P\u0646Q\u062aR\u064aR\u062bS\u0644T\u0628U\u0645U\u0636X
\u0644\u0645I_K\u0627L\u064aL\u0623M\u0633M\u0639M\u0649M\u0628N\u063aN\u0641N\u0642N\u0643N
\u0644\u0644N\u06a9N\u062fO\u0648O\u06d2O\u062dP\u0634P\u0646P\u0629Q\u062aQ\u062cR\u0625S\u062eS
\u0644\u0631S\u0635S\u0691S\u0637T\u0647T\u062bW\u0632W\u0636X\u067eX
\u0645\u064aJ_K\u0627K\u0646L\u0644N\u0633O\u0629P\u062fP\u0639P\u0647P\u0648P\u0628Q\u062aQ
\u0645\u0631Q\u0643R\u062cS\u062dT\u0634T\u0635T\u0626U\u063aU\u06c1U\u0637V\u062eW
\u0646_G\u062fH\u06d2J\u0627L\u0648M\u062aN\u0634N\u0647N\u064aN\u06afO\u0629P\u0645P\u0688Q
\u0646\u06c1Q\u0626R\u062cR\u06a9R\u0632S\u0633S\u0679S\u0641T\u0646T\u0637U\u063aU\u0643V\u0628W
\u0646\u0631W\u0635W\u0642W\u062dX\u0630X
\u0647_E\u0627L\u0631N\u062fQ\u0645Q\u064aQ\u0630S\u0633S\u0634S\u0646S\u0632T\u0648T\u0644U
\u0647\u0628X
\u0648_I\u0627J\u0631J\u062fK\u0646L\u0633N\u0644N\u064aN\u0628O\u0645O\u06baO\u062cP\u06afP
\u0648\u062aQ\u0625R\u0626R\u06c1R\u0632S\u0634T\u0642T\u0679T\u0686T\u0637U\u0641U\u0647U\u0648U
\u0648\u06a9U\u0691U\u0623V\u0622W\u0635W\u067eW\u0636X\u0643X\u0649X\u0688X\u06d2X
\u0649_L
\u064a_G\u0629I\u06baI\u0646K\u0627L\u0631M\u062fN\u0644N\u06a9N\u06c1N\u0648O\u062aP\u0632P
\u064a\u0645P\u0628Q\u0639Q\u0642Q\u06d2Q\u0633R\u0643R\u062cS\u0634S\u064aS\u062dT\u0641T\u062bU
\u064a\u062eV\u063aV\u0626W\u0635W\u0636W\u0637W\u0647W\u06afW\u0621X
\u0679_S\u0627S\u0648S\u0631U\u06d2W\u0633X\u0644X\u0646X
\u067e\u0627N\u0631N\u0646O\u0633Q\u064aQ_R\u0691S\u06c1S\u0648T\u06beV\u0632W
\u0686\u06beP\u0627R\u064aS\u06a9T\u0644U\u067eU\u06d2U\u0646V\u0645W_X\u0647X
\u0698\u0627U
\u0688_T\u0627U\u0648U\u0631W
\u06af\u0631M\u0627N\u0648O_R\u0641S\u0646T\u064aT\u0626U\u06c1U\u0644V\u062aW\u062fW\u0634W
\u06af\u0645W\u06beX
\u06a9\u0627K\u0631K\u0648L\u064aL\u06beL\u06c1M\u06d2M_N\u0646N\u0633O\u0647P\u0634Q\u062aR
\u06a9\u0644S\u0645T\u0628X\u0679X
\u0691\u06a9Q\u0627S\u06beS\u06d2U_V
\u06ba_H
\u06be\u064aM\u0627O\u06d2O_Q\u062aS\u0644S\u0646T\u0648U
\u06c1_I\u06d2I\u064aL\u0627M\u0648M\u062aP\u0631Q\u0645R\u0644S\u0646T\u062fX
\u06d2_C" arabicNeverMeet

end LanguageDetection.Text.Charset.Family
