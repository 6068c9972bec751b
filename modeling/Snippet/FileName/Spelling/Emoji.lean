/-! Names of pictures. -/

set_option autoImplicit false

namespace Snippet.Spelling

def emoji : List (Nat × String) :=
  [ (0x231, "··········watch·hourglass"), (0x232, "········keyboard"),
    (0x23C, "···············eject button"),
    (0x23E, "·········fast forward·rewind·arrow double up·arrow double down·next track button·previous track button·play or pause button"),
    (0x23F, "alarm clock·stopwatch·timer clock·hourglass flowing sand·····pause button·stop button·record button"),
    (0x25F, "···········white medium square·black medium square·white medium small square·black medium small square"),
    (0x260, "sunny·cloud·open umbrella·snowman with snow·comet··········phone"),
    (0x261, "·ballot box with check···umbrella·coffee···shamrock·····point up"),
    (0x262, "skull and crossbones··radioactive·biohazard···orthodox cross····star and crescent····peace symbol·yin yang"),
    (0x263, "········wheel of dharma·frowning face·relaxed"),
    (0x264, "female sign··male sign······aries·taurus·gemini·cancer·leo·virgo·libra·scorpius"),
    (0x265, "sagittarius·capricorn·aquarius·pisces············chess pawn"),
    (0x266, "spades···clubs··hearts·diamonds··hotsprings"),
    (0x267, "···········recycle···infinity·wheelchair"),
    (0x269, "··hammer and pick·anchor·crossed swords·medical symbol·balance scale·alembic··gear··atom symbol·fleur de lis"),
    (0x26A, "warning·zap······transgender symbol···white circle·black circle"),
    (0x26B, "coffin·funeral urn············soccer·baseball"),
    (0x26C, "····snowman·partly sunny···cloud with lightning and rain······ophiuchus·pick"),
    (0x26D, "·rescue worker helmet··chains·no entry"), (0x26E, "·········shinto shrine·church"),
    (0x26F, "mountain·parasol on ground·fountain·golf·ferry·boat··skier·ice skate·bouncing ball person·tent···fuelpump"),
    (0x270, "··scissors···white check mark···airplane·envelope·fist raised·hand·v·writing hand··pencil2"),
    (0x271, "··black nib·check·heavy check mark··heavy multiplication x·x······latin cross"),
    (0x272, "·star of david·······sparkles"),
    (0x273, "···eight spoked asterisk·eight pointed black star"),
    (0x274, "····snowflake···sparkle·····x··negative squared cross mark"),
    (0x275, "···question·grey question·grey exclamation··exclamation"),
    (0x276, "···heavy heart exclamation·heart"),
    (0x279, "·····heavy plus sign·heavy minus sign·heavy division sign"), (0x27A, "·arrow right"),
    (0x27B, "curly loop···············loop"), (0x293, "····arrow heading up·arrow heading down"),
    (0x2B0, "·····arrow left·arrow up·arrow down"),
    (0x2B1, "···········black large square·white large square"), (0x2B5, "star·····o"),
    (0x303, "·············part alternation mark"), (0x1F00, "····mahjong"),
    (0x1F0C, "···············black joker"), (0x1F17, "a·b·············o2·parking"),
    (0x1F18, "··············ab"), (0x1F19, "·cl·cool·free·id·new·ng·ok·sos·up·vs"),
    (0x1F20, "·koko·sa"), (0x1F21, "··········u7121"), (0x1F22, "···············u6307"),
    (0x1F23, "··u7981·u7a7a·u5408·u6e80·u6709·u6708·u7533·u5272·u55b6"),
    (0x1F25, "ideograph advantage·accept"),
    (0x1F30, "cyclone·foggy·closed umbrella·night with stars·sunrise over mountains·sunrise·city sunset·city sunrise·rainbow·bridge at night·ocean·volcano·milky way·earth africa·earth americas·earth asia"),
    (0x1F31, "globe with meridians·new moon·waxing crescent moon·first quarter moon·moon·full moon·waning gibbous moon·last quarter moon·waning crescent moon·crescent moon·new moon with face·first quarter moon with face·last quarter moon with face·full moon with face·sun with face·star2"),
    (0x1F32, "stars·thermometer···sun behind small cloud·sun behind large cloud·sun behind rain cloud·cloud with rain·cloud with snow·cloud with lightning·tornado·fog·wind face·hotdog·taco·burrito"),
    (0x1F33, "chestnut·seedling·evergreen tree·deciduous tree·palm tree·cactus·hot pepper·tulip·cherry blossom·rose·hibiscus·sunflower·blossom·corn·ear of rice·herb"),
    (0x1F34, "four leaf clover·maple leaf·fallen leaf·leaves·mushroom·tomato·eggplant·grapes·melon·watermelon·tangerine·lemon·banana·pineapple·apple·green apple"),
    (0x1F35, "pear·peach·cherries·strawberry·hamburger·pizza·meat on bone·poultry leg·rice cracker·rice ball·rice·curry·ramen·spaghetti·bread·fries"),
    (0x1F36, "sweet potato·dango·oden·sushi·fried shrimp·fish cake·icecream·shaved ice·ice cream·doughnut·cookie·chocolate bar·candy·lollipop·custard·honey pot"),
    (0x1F37, "cake·bento·stew·fried egg·fork and knife·tea·sake·wine glass·cocktail·tropical drink·beer·beers·baby bottle·plate with cutlery·champagne·popcorn"),
    (0x1F38, "ribbon·gift·birthday·jack o lantern·christmas tree·santa·fireworks·sparkler·balloon·tada·confetti ball·tanabata tree·crossed flags·bamboo·dolls·flags"),
    (0x1F39, "wind chime·rice scene·school satchel·mortar board···medal military·reminder ribbon··studio microphone·level slider·control knobs···film strip·tickets"),
    (0x1F3A, "carousel horse·ferris wheel·roller coaster·fishing pole and fish·microphone·movie camera·cinema·headphones·art·tophat·circus tent·ticket·clapper·performing arts·video game·dart"),
    (0x1F3B, "slot machine·8ball·game die·bowling·flower playing cards·musical note·notes·saxophone·guitar·musical keyboard·trumpet·violin·musical score·running shirt with sash·tennis·ski"),
    (0x1F3C, "basketball·checkered flag·snowboarder·runner·surfer·medal sports·trophy·horse racing·football·rugby football·swimmer·weight lifting·golfing·motorcycle·racing car·cricket game"),
    (0x1F3D, "volleyball·field hockey·ice hockey·ping pong·mountain snow·camping·beach umbrella·building construction·houses·cityscape·derelict house·classical building·desert·desert island·national park·stadium"),
    (0x1F3E, "house·house with garden·office·post office·european post office·hospital·bank·atm·hotel·love hotel·convenience store·school·department store·factory·izakaya lantern·japanese castle"),
    (0x1F3F, "european castle···white flag·black flag·rosette··label·badminton·bow and arrow·amphora"),
    (0x1F40, "rat·mouse2·ox·water buffalo·cow2·tiger2·leopard·rabbit2·cat2·dragon·crocodile·whale2·snail·snake·racehorse·ram"),
    (0x1F41, "goat·sheep·monkey·rooster·chicken·dog2·pig2·boar·elephant·octopus·shell·bug·ant·bee·lady beetle·fish"),
    (0x1F42, "tropical fish·blowfish·turtle·hatching chick·baby chick·hatched chick·bird·penguin·koala·poodle·dromedary camel·camel·dolphin·mouse·cow·tiger"),
    (0x1F43, "rabbit·cat·dragon face·whale·horse·monkey face·dog·pig·frog·hamster·wolf·bear·panda face·pig nose·feet·chipmunk"),
    (0x1F44, "eyes·eye·ear·nose·lips·tongue·point up 2·point down·point left·point right·fist oncoming·wave·ok hand·+1·-1·clap"),
    (0x1F45, "open hands·crown·womans hat·eyeglasses·necktie·shirt·jeans·dress·kimono·bikini·womans clothes·purse·handbag·pouch·mans shoe·athletic shoe"),
    (0x1F46, "high heel·sandal·boot·footprints·bust in silhouette·busts in silhouette·boy·girl·man·woman·family·couple·two men holding hands·two women holding hands·police officer·dancers"),
    (0x1F47, "person with veil·blond haired person·man with gua pi mao·person with turban·older man·older woman·baby·construction worker·princess·japanese ogre·japanese goblin·ghost·angel·alien·space invader·imp"),
    (0x1F48, "skull·tipping hand person·guard·woman dancing·lipstick·nail care·massage·haircut·barber·syringe·pill·kiss·love letter·ring·gem·couplekiss"),
    (0x1F49, "bouquet·couple with heart·wedding·heartbeat·broken heart·two hearts·sparkling heart·heartpulse·cupid·blue heart·green heart·yellow heart·purple heart·gift heart·revolving hearts·heart decoration"),
    (0x1F4A, "diamond shape with a dot inside·bulb·anger·bomb·zzz·boom·sweat drops·droplet·dash·hankey·muscle·dizzy·speech balloon·thought balloon·white flower·100"),
    (0x1F4B, "moneybag·currency exchange·heavy dollar sign·credit card·yen·dollar·euro·pound·money with wings·chart·seat·computer·briefcase·minidisc·floppy disk·cd"),
    (0x1F4C, "dvd·file folder·open file folder·page with curl·page facing up·date·calendar·card index·chart with upwards trend·chart with downwards trend·bar chart·clipboard·pushpin·round pushpin·paperclip·straight ruler"),
    (0x1F4D, "triangular ruler·bookmark tabs·ledger·notebook·notebook with decorative cover·closed book·book·green book·blue book·orange book·books·name badge·scroll·memo·telephone receiver·pager"),
    (0x1F4E, "fax·satellite·loudspeaker·mega·outbox tray·inbox tray·package·e-mail·incoming envelope·envelope with arrow·mailbox closed·mailbox·mailbox with mail·mailbox with no mail·postbox·postal horn"),
    (0x1F4F, "newspaper·iphone·calling·vibration mode·mobile phone off·no mobile phones·signal strength·camera·camera with flash·video camera·tv·radio·vhs·film projector··prayer beads"),
    (0x1F50, "twisted rightwards arrows·repeat·repeat one·arrows clockwise·arrows counterclockwise·low brightness·high brightness·mute·speaker·sound·loud sound·battery·electric plug·mag·mag right·lock with ink pen"),
    (0x1F51, "closed lock with key·key·lock·unlock·bell·no bell·bookmark·link·radio button·back·end·on·soon·top·underage·ten"),
    (0x1F52, "capital abcd·abcd·1234·symbols·abc·fire·flashlight·wrench·hammer·nut and bolt·hocho·gun·microscope·telescope·crystal ball·six pointed star"),
    (0x1F53, "beginner·trident·black square button·white square button·red circle·large blue circle·large orange diamond·large blue diamond·small orange diamond·small blue diamond·small red triangle·small red triangle down·arrow up small·arrow down small"),
    (0x1F54, "·········om·dove·kaaba·mosque·synagogue·menorah"),
    (0x1F55, "clock1·clock2·clock3·clock4·clock5·clock6·clock7·clock8·clock9·clock10·clock11·clock12·clock130·clock230·clock330·clock430"),
    (0x1F56, "clock530·clock630·clock730·clock830·clock930·clock1030·clock1130·clock1230········candle"),
    (0x1F57, "mantelpiece clock···hole·business suit levitating·detective·dark sunglasses·spider·spider web·joystick·man dancing"),
    (0x1F58, "·······linked paperclips···pen·fountain pen·paintbrush·crayon"),
    (0x1F59, "raised hand with fingers splayed·····middle finger·vulcan salute"),
    (0x1F5A, "····black heart·desktop computer···printer"),
    (0x1F5B, "·computer mouse·trackball··········framed picture"),
    (0x1F5C, "··card index dividers·card file box·file cabinet"),
    (0x1F5D, "·wastebasket·spiral notepad·spiral calendar·········clamp·old key·newspaper roll"),
    (0x1F5E, "·dagger··speaking head·····left speech bubble·······right anger bubble"),
    (0x1F5F, "···ballot box·······world map·mount fuji·tokyo tower·statue of liberty·japan·moyai"),
    (0x1F60, "grinning·grin·joy·smiley·smile·sweat smile·laughing·innocent·smiling imp·wink·blush·yum·relieved·heart eyes·sunglasses·smirk"),
    (0x1F61, "neutral face·expressionless·unamused·sweat·pensive·confused·confounded·kissing·kissing heart·kissing smiling eyes·kissing closed eyes·stuck out tongue·stuck out tongue winking eye·stuck out tongue closed eyes·disappointed·worried"),
    (0x1F62, "angry·rage·cry·persevere·triumph·disappointed relieved·frowning·anguished·fearful·weary·sleepy·tired face·grimacing·sob·open mouth·hushed"),
    (0x1F63, "cold sweat·scream·astonished·flushed·sleeping·dizzy face·no mouth·mask·smile cat·joy cat·smiley cat·heart eyes cat·smirk cat·kissing cat·pouting cat·crying cat face"),
    (0x1F64, "scream cat·slightly frowning face·slightly smiling face·upside down face·roll eyes·no good·ok person·bow·see no evil·hear no evil·speak no evil·raising hand·raised hands·frowning person·pouting face·pray"),
    (0x1F68, "rocket·helicopter·steam locomotive·railway car·bullettrain side·bullettrain front·train2·metro·light rail·station·tram·train·bus·oncoming bus·trolleybus·busstop"),
    (0x1F69, "minibus·ambulance·fire engine·police car·oncoming police car·taxi·oncoming taxi·car·oncoming automobile·blue car·truck·articulated lorry·tractor·monorail·mountain railway·suspension railway"),
    (0x1F6A, "mountain cableway·aerial tramway·ship·rowboat·speedboat·traffic light·vertical traffic light·construction·rotating light·triangular flag on post·door·no entry sign·smoking·no smoking·put litter in its place·do not litter"),
    (0x1F6B, "potable water·non potable water·bike·no bicycles·bicyclist·mountain bicyclist·walking·no pedestrians·children crossing·mens·womens·restroom·baby symbol·toilet·wc·shower"),
    (0x1F6C, "bath·bathtub·passport control·customs·baggage claim·left luggage······couch and lamp·sleeping bed·shopping bags·bellhop bell·bed"),
    (0x1F6D, "place of worship·stop sign·shopping cart···hindu temple·hut·elevator·····wireless·playground slide·wheel·ring buoy"),
    (0x1F6E, "hammer and wrench·shield·oil drum·motorway·railway track·motor boat····small airplane··flight departure·flight arrival"),
    (0x1F6F, "artificial satellite···passenger ship·kick scooter·motor scooter·canoe·sled·flying saucer·skateboard·auto rickshaw·pickup truck·roller skate"),
    (0x1F7E, "orange circle·yellow circle·green circle·purple circle·brown circle·red square·blue square·orange square·yellow square·green square·purple square·brown square"),
    (0x1F7F, "heavy equals sign"),
    (0x1F90, "············pinched fingers·white heart·brown heart·pinching hand"),
    (0x1F91, "zipper mouth face·money mouth face·face with thermometer·nerd face·thinking·face with head bandage·robot·hugs·metal·call me hand·raised back of hand·fist left·fist right·handshake·crossed fingers·love you gesture"),
    (0x1F92, "cowboy hat face·clown face·nauseated face·rofl·drooling face·lying face·facepalm·sneezing face·raised eyebrow·star struck·zany face·shushing face·cursing face·hand over mouth·vomiting face·exploding head"),
    (0x1F93, "pregnant woman·breast feeding·palms up together·selfie·prince·person in tuxedo·mrs claus·shrug·cartwheeling·juggling person·person fencing··wrestling·water polo·handball person·diving mask"),
    (0x1F94, "wilted flower·drum·clinking glasses·tumbler glass·spoon·goal net··1st place medal·2nd place medal·3rd place medal·boxing glove·martial arts uniform·curling stone·lacrosse·softball·flying disc"),
    (0x1F95, "croissant·avocado·cucumber·bacon·potato·carrot·baguette bread·green salad·shallow pan of food·stuffed flatbread·egg·milk glass·peanuts·kiwi fruit·pancakes·dumpling"),
    (0x1F96, "fortune cookie·takeout box·chopsticks·bowl with spoon·cup with straw·coconut·broccoli·pie·pretzel·cut of meat·sandwich·canned food·leafy green·mango·moon cake·bagel"),
    (0x1F97, "smiling face with three hearts·yawning face·smiling face with tear·partying face·woozy face·hot face·cold face·ninja·disguised face·face holding back tears·pleading face·sari·lab coat·goggles·hiking boot·flat shoe"),
    (0x1F98, "crab·lion·scorpion·turkey·unicorn·eagle·duck·bat·shark·owl·fox face·butterfly·deer·gorilla·lizard·rhinoceros"),
    (0x1F99, "shrimp·squid·giraffe·zebra·hedgehog·sauropod·t-rex·cricket·kangaroo·llama·peacock·hippopotamus·parrot·raccoon·lobster·mosquito"),
    (0x1F9A, "microbe·badger·swan·mammoth·dodo·sloth·otter·orangutan·skunk·flamingo·oyster·beaver·bison·seal·guide dog·probing cane"),
    (0x1F9B, "red hair·curly hair·bald·white hair·bone·leg·foot·tooth·superhero·supervillain·safety vest·ear with hearing aid·motorized wheelchair·manual wheelchair·mechanical arm·mechanical leg"),
    (0x1F9C, "cheese·cupcake·salt·beverage box·garlic·onion·falafel·waffle·butter·mate·ice·bubble tea·troll·standing person·kneeling person·deaf person"),
    (0x1F9D, "monocle face·adult·child·older adult·bearded person·woman with headscarf·sauna person·climbing·lotus position·mage·fairy·vampire·merperson·elf·genie·zombie"),
    (0x1F9E, "brain·orange heart·billed cap·scarf·gloves·coat·socks·red envelope·firecracker·jigsaw·test tube·petri dish·dna·compass·abacus·fire extinguisher"),
    (0x1F9F, "toolbox·brick·magnet·luggage·lotion bottle·thread·yarn·safety pin·teddy bear·broom·basket·roll of paper·soap·sponge·receipt·nazar amulet"),
    (0x1FA7, "ballet shoes·one piece swimsuit·swim brief·shorts·thong sandal·light blue heart·grey heart·pink heart·drop of blood·adhesive bandage·stethoscope·x ray·crutch"),
    (0x1FA8, "yo yo·kite·parachute·boomerang·magic wand·pinata·nesting dolls·maracas·flute"),
    (0x1FA9, "ringed planet·chair·razor·axe·diya lamp·banjo·military helmet·accordion·long drum·coin·carpentry saw·screwdriver·ladder·hook·mirror·window"),
    (0x1FAA, "plunger·sewing needle·knot·bucket·mouse trap·toothbrush·headstone·placard·rock·mirror ball·identification card·low battery·hamsa·folding hand fan·hair pick·khanda"),
    (0x1FAB, "fly·worm·beetle·cockroach·potted plant·wood·feather·lotus·coral·empty nest·nest with eggs·hyacinth·jellyfish·wing··goose"),
    (0x1FAC, "anatomical heart·lungs·people hugging·pregnant man·pregnant person·person with crown·········moose·donkey"),
    (0x1FAD, "blueberries·bell pepper·olive·flatbread·tamale·fondue·teapot·pouring liquid·beans·jar·ginger root·pea pod"),
    (0x1FAE, "melting face·saluting face·face with open eyes and hand over mouth·face with peeking eye·face with diagonal mouth·dotted line face·biting lip·bubbles·shaking face"),
    (0x1FAF, "hand with index finger and thumb crossed·rightwards hand·leftwards hand·palm down hand·palm up hand·index pointing at the viewer·heart hands·leftwards pushing hand·rightwards pushing hand") ]

end Snippet.Spelling
